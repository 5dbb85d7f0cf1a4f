import Lintel.Proofs.RuleSafety
import Lintel.Proofs.RuleTurns
import Mathlib.Data.List.Nodup

/-!
# Nested blocks

The blocks of a module with their levels, told by the statements alone: a block stands one level deeper than
what it stands in, whether it stands in the body of the other block, in a branch behind it, in a handler or in
a case. The rule about nested blocks reports those whose level exceeds its limit, in the order in which they
stand.
-/

set_option autoImplicit false

namespace Lintel

/-! ## Blocks and their levels -/

namespace Python.Stmt

/-- Statements that nest what they hold one level deeper. -/
def isBlock : Stmt → Bool
  | .functionDef .. | .classDef .. | .ifElse .. | .forLoop .. | .whileLoop .. | .tryBlock ..
  | .withBlock .. | .matchCases .. => true
  | _ => false

/-- The statements that stand directly in a statement; handlers and cases are no statements of their own. -/
def inner : Stmt → List Stmt
  | .functionDef _ _ _ _ _ _ _ body => body
  | .classDef _ _ _ _ _ _ body => body
  | .withBlock _ _ _ body => body
  | .forLoop _ _ _ _ body orElse => body ++ orElse
  | .whileLoop _ _ body orElse => body ++ orElse
  | .ifElse _ _ body orElse => body ++ orElse
  | .tryBlock _ _ body handlers orElse final => body ++ handlers.flatMap Handler.body ++ orElse ++ final
  | .matchCases _ _ cases => cases.flatMap Case.body
  | _ => []

private theorem child_of_mem_inner {outer held : Stmt} (member : held ∈ outer.inner) :
    Node.stmt held ∈ (Node.stmt outer).children ∨
      ∃ clause : Handler, Node.handler clause ∈ (Node.stmt outer).children ∧ held ∈ clause.body := by
  cases outer
  case tryBlock =>
    simp only [inner, List.mem_append, List.mem_flatMap] at member
    rcases member with ((inBody | ⟨clause, isClause, inClause⟩) | inElse) | inFinal
    · exact .inl (by simp [Node.children, Node.stmtChildren, inBody])
    · exact .inr ⟨clause, by simp [Node.children, Node.stmtChildren, isClause], inClause⟩
    · exact .inl (by simp [Node.children, Node.stmtChildren, inElse])
    · exact .inl (by simp [Node.children, Node.stmtChildren, inFinal])
  all_goals simp_all [inner, Node.children, Node.stmtChildren]

theorem sizeOf_lt_of_mem_inner {outer held : Stmt} (member : held ∈ outer.inner) :
    sizeOf held < sizeOf outer := by
  rcases child_of_mem_inner member with isChild | ⟨clause, isChild, inClause⟩
  · have smaller := Node.sizeOf_lt_of_mem_children isChild
    simpa using smaller
  · have handlerSmaller := Node.sizeOf_lt_of_mem_children isChild
    have grandchild : Node.stmt held ∈ (Node.handler clause).children := by
      simp [Node.children, inClause]
    have smaller := Node.sizeOf_lt_of_mem_children grandchild
    simp only [Node.stmt.sizeOf_spec, Node.handler.sizeOf_spec] at handlerSmaller smaller
    omega

/-- The blocks of a statement that stands inside of `level` blocks, each with its own level: itself first if it
is one, then those that it holds. Only blocks hold statements. -/
def blocks (level : Nat) (statement : Stmt) : List (Stmt × Nat) :=
  if statement.isBlock then
    (statement, level + 1) :: statement.inner.attach.flatMap fun ⟨held, _⟩ => held.blocks (level + 1)
  else []
termination_by sizeOf statement
decreasing_by exact sizeOf_lt_of_mem_inner (by assumption)

/-- The blocks that a block holds, however deep, given its level. -/
def blocksInside (level : Nat) (statement : Stmt) : List (Stmt × Nat) :=
  statement.inner.flatMap (blocks level)

theorem blocks_eq (level : Nat) (statement : Stmt) :
    statement.blocks level =
      if statement.isBlock then (statement, level + 1) :: statement.blocksInside (level + 1) else [] := by
  rw [blocks, blocksInside]
  simp only [List.flatMap_subtype, List.unattach_attach]

theorem mem_blocks_iff {level : Nat} {statement : Stmt} {block : Stmt × Nat} :
    block ∈ statement.blocks level ↔ statement.isBlock = true ∧
      (block = (statement, level + 1) ∨ ∃ held ∈ statement.inner, block ∈ held.blocks (level + 1)) := by
  rw [blocks_eq]
  split
  · rename_i isBlock
    rw [List.mem_cons, blocksInside, List.mem_flatMap, isBlock]
    exact (and_iff_right rfl).symm
  · rename_i plain
    simp [plain]

theorem level_lt_of_mem_blocks {level : Nat} {statement : Stmt} {block : Stmt × Nat}
    (member : block ∈ statement.blocks level) : level < block.2 := by
  induction level, statement using blocks.induct with
  | case1 level statement _ ih =>
    obtain ⟨_, rfl | ⟨held, isHeld, inside⟩⟩ := mem_blocks_iff.mp member
    · exact Nat.lt_succ_self level
    · exact Nat.lt_of_succ_lt (ih held isHeld inside)
  | case2 level statement plain => exact absurd (mem_blocks_iff.mp member).1 plain

/-- What a block holds is among the blocks of everything that holds the block. -/
theorem mem_blocks_of_inside {level : Nat} {statement : Stmt} {outer inner : Stmt × Nat}
    (member : outer ∈ statement.blocks level) (inside : inner ∈ outer.1.blocksInside outer.2) :
    inner ∈ statement.blocks level := by
  induction level, statement using blocks.induct with
  | case1 level statement isBlock ih =>
    refine mem_blocks_iff.mpr ⟨isBlock, .inr ?_⟩
    obtain ⟨_, rfl | ⟨held, isHeld, deeper⟩⟩ := mem_blocks_iff.mp member
    · exact List.mem_flatMap.mp inside
    · exact ⟨held, isHeld, ih held isHeld deeper⟩
  | case2 level statement plain => exact absurd (mem_blocks_iff.mp member).1 plain

end Python.Stmt

open Python

/-- The blocks of a module with their levels. -/
def blocksIn (body : List Stmt) : List (Stmt × Nat) :=
  body.flatMap (Stmt.blocks 0)

/-- The blocks of a module whose level exceeds a limit. -/
def deepBlocks (limit : Nat) (body : List Stmt) : List (Stmt × Nat) :=
  (blocksIn body).filter fun block => limit < block.2

theorem deepBlocks_sublist {limit higher : Nat} (atMost : limit ≤ higher) (body : List Stmt) :
    (deepBlocks higher body).Sublist (deepBlocks limit body) := by
  have stricter : ∀ block : Stmt × Nat, higher < block.2 → limit < block.2 :=
    fun _ deeper => Nat.lt_of_le_of_lt atMost deeper
  refine List.monotone_filter_right (blocksIn body) fun block deeper => ?_
  simpa using stricter block (by simpa using deeper)

/-- A block inside one that is too deep is too deep itself, and deeper. -/
theorem mem_deepBlocks_of_inside {limit : Nat} {body : List Stmt} {outer inner : Stmt × Nat}
    (deep : outer ∈ deepBlocks limit body) (inside : inner ∈ outer.1.blocksInside outer.2) :
    inner ∈ deepBlocks limit body ∧ outer.2 < inner.2 := by
  obtain ⟨member, exceeds⟩ := List.mem_filter.mp deep
  obtain ⟨statement, inBody, isOuter⟩ := List.mem_flatMap.mp member
  obtain ⟨held, _, isInner⟩ := List.mem_flatMap.mp inside
  have deeper := Stmt.level_lt_of_mem_blocks isInner
  refine ⟨List.mem_filter.mpr ⟨?_, ?_⟩, deeper⟩
  · exact List.mem_flatMap.mpr ⟨statement, inBody, Stmt.mem_blocks_of_inside isOuter inside⟩
  · exact decide_eq_true (Nat.lt_trans (of_decide_eq_true exceeds) deeper)

/-! ## Levels and the nodes around a block -/

namespace Node

def isBlock : Node → Bool
  | stmt statement => statement.isBlock
  | _ => false

theorem isBlock_kind (node : Node) : node.kind.isBlock = node.isBlock := by
  cases node with
  | expr expression => cases expression <;> rfl
  | handler clause => rfl
  | stmt statement =>
    cases statement
    case functionDef _ isAsync _ _ _ _ _ _ => cases isAsync <;> rfl
    case forLoop _ isAsync _ _ _ _ => cases isAsync <;> rfl
    case withBlock _ isAsync _ _ => cases isAsync <;> rfl
    case tryBlock _ isStar _ _ _ _ => cases isStar <;> rfl
    all_goals rfl

/-- How many of the nodes around a node are blocks. -/
def blocksAround (ancestors : List Node) : Nat := ancestors.countP isBlock

/-- The level of a node that is a block, told by the nodes around it. -/
def blockLevel? : Node × List Node → Option (Stmt × Nat)
  | (stmt statement, ancestors) =>
    if statement.isBlock then some (statement, blocksAround ancestors + 1) else none
  | _ => none

/-- The blocks of a node that stands inside of `level` blocks. -/
def blocks (level : Nat) : Node → List (Stmt × Nat)
  | stmt statement => statement.blocks level
  | expr _ => []
  | handler clause => clause.body.flatMap (Stmt.blocks level)

theorem flatMap_blocks_stmt (level : Nat) (body : List Stmt) :
    (body.map stmt).flatMap (blocks level) = body.flatMap (Stmt.blocks level) := by
  rw [List.flatMap_map]
  rfl

theorem flatMap_blocks_expr (level : Nat) (values : List Expr) :
    (values.map expr).flatMap (blocks level) = [] := by
  simp [List.flatMap_map, blocks]

theorem flatMap_blocks_handler (level : Nat) (handlers : List Handler) :
    (handlers.map handler).flatMap (blocks level) =
      (handlers.flatMap Handler.body).flatMap (Stmt.blocks level) := by
  simp [List.flatMap_map, List.flatMap_assoc, blocks]

/-- The blocks among the children of a statement are those of the statements that it holds. -/
theorem flatMap_blocks_children (level : Nat) (statement : Stmt) :
    (stmt statement).children.flatMap (blocks level) = statement.inner.flatMap (Stmt.blocks level) := by
  cases statement
  all_goals simp only [children, stmtChildren, Stmt.inner]
  all_goals simp [flatMap_blocks_stmt, flatMap_blocks_expr, flatMap_blocks_handler, blocks, List.flatMap_assoc,
    List.flatMap_append]

theorem blocks_eq (level : Nat) (statement : Stmt) :
    statement.blocks level =
      if statement.isBlock then
        (statement, level + 1) :: (stmt statement).children.flatMap (blocks (level + 1))
      else [] := by
  rw [Stmt.blocks_eq, flatMap_blocks_children, Stmt.blocksInside]

/-- Statements that are no blocks hold no statements. -/
theorem flatMap_blocks_children_of_plain (level : Nat) {statement : Stmt} (plain : statement.isBlock = false) :
    (stmt statement).children.flatMap (blocks level) = [] := by
  rw [flatMap_blocks_children]
  cases statement <;> first | rfl | cases plain

theorem blocksAround_cons (node : Node) (ancestors : List Node) :
    blocksAround (node :: ancestors) = blocksAround ancestors + if node.isBlock then 1 else 0 :=
  List.countP_cons

theorem lineages_eq (ancestors : List Node) (node : Node) :
    node.lineages ancestors = (node, ancestors) :: node.children.flatMap (lineages (node :: ancestors)) := by
  rw [lineages]
  simp only [List.flatMap_subtype, List.unattach_attach]

/-- The blocks of a node, told by the nodes around them and by the statements they stand in. -/
theorem filterMap_lineages (ancestors : List Node) (node : Node) :
    (node.lineages ancestors).filterMap blockLevel? = node.blocks (blocksAround ancestors) := by
  induction ancestors, node using lineages.induct with
  | case1 ancestors node ih =>
    have below : (node.children.flatMap (lineages (node :: ancestors))).filterMap blockLevel? =
        node.children.flatMap (blocks (blocksAround (node :: ancestors))) := by
      rw [List.filterMap_flatMap]
      exact List.flatMap_congr ih
    rw [lineages_eq, List.filterMap_cons, below, blocksAround_cons]
    cases node with
    | expr expression =>
      exact flatMap_blocks_expr _ _
    | handler clause =>
      simp [blockLevel?, children, blocks, isBlock, List.flatMap_append, flatMap_blocks_stmt, flatMap_blocks_expr]
    | stmt statement =>
      rw [blocks, blocks_eq]
      cases isBlock : statement.isBlock with
      | true => simp [blockLevel?, Node.isBlock, isBlock]
      | false => simp [blockLevel?, Node.isBlock, isBlock, flatMap_blocks_children_of_plain]

end Node

/-- The level of a block is one more than the number of blocks around it. -/
theorem blocksIn_eq (body : List Stmt) : blocksIn body = (lineagesOf body).filterMap Node.blockLevel? := by
  rw [lineagesOf, List.filterMap_flatMap, blocksIn]
  congr 1
  funext statement
  exact (Node.filterMap_lineages [] (.stmt statement)).symm

/-! ## What the rule reports -/

namespace Rule

/-- What the rule about nested blocks says of one that is too deep. -/
def nestingFinding (lines : Text.LineIndex) (block : Stmt × Nat) : Finding :=
  ⟨"max-nesting-depth", Span.ofExtent lines block.1.extent, s!"Deeply nested code (depth {block.2})", .information⟩

/-- The rule looks at the kinds that nest deeper, and at no others. -/
theorem mem_blockKinds_iff (kind : NodeKind) : kind ∈ blockKinds ↔ kind.isBlock = true := by
  cases kind <;> decide

theorem filter_subscriptions (kind : NodeKind) :
    (maxNestingDepth.subscriptions.filter fun wanted => wanted = kind) = if kind.isBlock then [kind] else [] := by
  have once : blockKinds.Nodup := by decide
  have filtered : (blockKinds.filter fun wanted => wanted = kind) = List.replicate (blockKinds.count kind) kind :=
    List.filter_eq kind
  rw [maxNestingDepth, filtered]
  split
  · rename_i isBlock
    rw [List.count_eq_one_of_mem once ((mem_blockKinds_iff kind).mpr isBlock)]
    rfl
  · rename_i other
    rw [List.count_eq_zero.mpr (mt (mem_blockKinds_iff kind).mp other)]
    rfl

/-- What the rule finds at a node, by its level. -/
theorem found_maxNestingDepth {parameters : ParameterValues} {limit : Nat}
    (limited : parameters.integer "maxDepth" = .ok limit) (source : SourceContext) (lineage : Node × List Node) :
    ((maxNestingDepth.subscriptions.filter fun wanted => wanted = lineage.1.kind).flatMap fun _ =>
        Turn.found source ⟨lineage.1, lineage.2, ⟨maxNestingDepth, parameters⟩⟩) =
      (((Node.blockLevel? lineage).toList.filter fun block => limit < block.2).map
        (nestingFinding source.lines)) := by
  obtain ⟨node, ancestors⟩ := lineage
  have depth : (Position.inside ancestors).depth = Node.blocksAround ancestors := by
    simp only [Position.inside, Node.blocksAround, Node.isBlock_kind]
  have found : Turn.found source ⟨node, ancestors, ⟨maxNestingDepth, parameters⟩⟩ =
      if limit < Node.blocksAround ancestors + 1 then
        [⟨"max-nesting-depth", Span.ofExtent source.lines node.extent,
          s!"Deeply nested code (depth {Node.blocksAround ancestors + 1})", .information⟩]
      else [] := by
    simp only [Turn.found, Turn.outcome, maxNestingDepth, Evaluation.withInteger, limited, Evaluation.found,
      Evaluation.pure, depth, RuleContext.findingAt]
  rw [filter_subscriptions, Node.isBlock_kind, found]
  cases node with
  | expr expression => rfl
  | handler clause => rfl
  | stmt statement =>
    cases isBlock : statement.isBlock with
    | false => simp [Node.isBlock, Node.blockLevel?, isBlock]
    | true =>
      by_cases deep : limit < Node.blocksAround ancestors + 1
      · simp [Node.isBlock, Node.blockLevel?, isBlock, deep, nestingFinding, Node.extent]
      · simp [Node.isBlock, Node.blockLevel?, isBlock, deep]

end Rule

namespace Dispatch

/-- What a walk finds under the id of the rule about nested blocks. -/
def nestingFindings (output : WalkOutput) : List Finding :=
  output.findings.filter fun finding => finding.ruleId = "max-nesting-depth"

variable {config : Config} {settings : RuleSettings} {ids : List String} {limit : Nat}

theorem nestingFindings_fullOutput
    (configured : Table.find? "max-nesting-depth" config.rules = some settings) (enabled : settings.enabled = true)
    (kept : "max-nesting-depth" ∉ ids) (limited : settings.parameters.integer "maxDepth" = .ok limit)
    (source : SourceContext) (body : List Stmt) :
    nestingFindings (fullOutput ((Routing.ofConfig .builtin config).without ids) source body) =
      (deepBlocks limit body).map (Rule.nestingFinding source.lines) := by
  have registered : Rule.maxNestingDepth ∈ Registry.builtin.rules := List.mem_of_getElem? (i := 2) rfl
  have routed : (⟨Rule.maxNestingDepth, settings.parameters⟩ : Route) ∈
      ((Routing.ofConfig .builtin config).without ids).all :=
    Routing.mem_all_without registered configured enabled kept
  have turns := findings_of_route routed source body
  simp only [Rule.found_maxNestingDepth limited] at turns
  rw [deepBlocks, blocksIn_eq, List.filterMap_eq_flatMap_toList, List.filter_flatMap, List.map_flatMap]
  exact turns

/-- Under an accepted configuration that has the rule on, the walk of a module finds under its id exactly the
blocks whose level exceeds the limit, in the order in which they stand. The level is told by the blocks around a
block. So with a block the rule reports everything that it holds, and with a higher limit it reports fewer. -/
theorem nested_blocks_reported {profile : Profile} {options : Options}
    (resolved : Config.resolve .builtin profile options = .ok config)
    (configured : Table.find? "max-nesting-depth" config.rules = some settings) (enabled : settings.enabled = true)
    (kept : "max-nesting-depth" ∉ ids) (source : SourceContext) (body : List Stmt) {token : CancelToken}
    (uncancelled :
      (run ((Routing.ofConfig .builtin config).without ids) source body token).2.cancelled = false) :
    ∃ limit output, settings.parameters.integer "maxDepth" = .ok limit ∧
      (run ((Routing.ofConfig .builtin config).without ids) source body token).1 = some output ∧
      nestingFindings output = (deepBlocks limit body).map (Rule.nestingFinding source.lines) ∧
      blocksIn body = (lineagesOf body).filterMap Node.blockLevel? ∧
      (∀ outer ∈ deepBlocks limit body, ∀ inner ∈ outer.1.blocksInside outer.2,
        outer.2 < inner.2 ∧ Rule.nestingFinding source.lines inner ∈ nestingFindings output) ∧
      ∀ (other : Config) otherSettings higher otherToken,
        Table.find? "max-nesting-depth" other.rules = some otherSettings → otherSettings.enabled = true →
        otherSettings.parameters.integer "maxDepth" = .ok higher → limit ≤ higher →
        (run ((Routing.ofConfig .builtin other).without ids) source body otherToken).2.cancelled = false →
          ∃ fewer, (run ((Routing.ofConfig .builtin other).without ids) source body otherToken).1 = some fewer ∧
            (nestingFindings fewer).Sublist (nestingFindings output) := by
  have registered : Rule.maxNestingDepth ∈ Registry.builtin.rules := List.mem_of_getElem? (i := 2) rfl
  obtain ⟨limit, limited⟩ := Config.integer_of_resolve (Registry.ascending_ofRules _) resolved registered
    configured List.mem_cons_self
  have found := nestingFindings_fullOutput configured enabled kept limited source body
  refine ⟨limit, _, limited, run_of_uncancelled uncancelled, found, blocksIn_eq body, ?_, ?_⟩
  · intro outer deep inner inside
    obtain ⟨isDeep, deeper⟩ := mem_deepBlocks_of_inside deep inside
    rw [found]
    exact ⟨deeper, List.mem_map_of_mem isDeep⟩
  · intro other otherSettings higher otherToken otherConfigured otherEnabled otherLimited atMost undisturbed
    have fewer := nestingFindings_fullOutput otherConfigured otherEnabled kept otherLimited source body
    refine ⟨_, run_of_uncancelled undisturbed, ?_⟩
    rw [found, fewer]
    exact (deepBlocks_sublist atMost body).map _

section Instance

/-- A function with a `try` in it, whose handler holds a loop. -/
def handlerLoop : List Stmt :=
  [.functionDef ⟨0, 70⟩ false [] "f" [] ⟨[], [], none, [], none⟩ none
    [.tryBlock ⟨13, 70⟩ false [.pass ⟨26, 30⟩]
      [⟨⟨35, 70⟩, none, none, [.whileLoop ⟨51, 70⟩ (.name ⟨57, 58⟩ "x") [.pass ⟨66, 70⟩] []]⟩] [] []]]

/-- A limit of one for the depth of blocks. -/
def shallowProfile : Profile where
  rules := [("max-nesting-depth", { parameters := [("maxDepth", .ofNat 1)] })]

end Instance

/-- The handler is no block, so the loop in it stands at level three, one deeper than the `try`. -/
theorem nested_blocks_reported_handler :
    let limits (limit : Nat) : Config :=
      ⟨Table.insert "max-nesting-depth" ⟨true, .information, [("maxDepth", .ofNat limit)]⟩
        (Config.initialRules .builtin {}), [], [], .information, .error⟩
    let routing (limit : Nat) := (Routing.ofConfig .builtin (limits limit)).without ["no-eval"]
    let source : SourceContext := ⟨"a.py", .ofString ""⟩
    Config.resolve .builtin shallowProfile {} = .ok (limits 1) ∧
      (run (routing 1) source handlerLoop .fresh).2.cancelled = false ∧
      ∃ output fewer, (run (routing 1) source handlerLoop .fresh).1 = some output ∧
        (nestingFindings output).map Finding.message =
          ["Deeply nested code (depth 2)", "Deeply nested code (depth 3)"] ∧
        (run (routing 2) source handlerLoop .fresh).1 = some fewer ∧
        (nestingFindings fewer).Sublist (nestingFindings output) := by
  intro limits routing source
  have resolved : Config.resolve .builtin shallowProfile {} = .ok (limits 1) := rfl
  have uncancelled : (run (routing 1) source handlerLoop .fresh).2.cancelled = false := by decide +kernel
  have undisturbed : (run (routing 2) source handlerLoop .fresh).2.cancelled = false := by decide +kernel
  have messages : (deepBlocks 1 handlerLoop).map (fun block => (Rule.nestingFinding source.lines block).message) =
      ["Deeply nested code (depth 2)", "Deeply nested code (depth 3)"] := by decide +kernel
  obtain ⟨limit, output, limited, walked, found, -, -, fewerFound⟩ :=
    nested_blocks_reported resolved rfl rfl (by decide) source handlerLoop uncancelled
  cases limited
  obtain ⟨fewer, rewalked, sublist⟩ :=
    fewerFound (limits 2) _ 2 .fresh rfl rfl rfl (by decide) undisturbed
  refine ⟨resolved, uncancelled, output, fewer, walked, ?_, rewalked, sublist⟩
  rw [found, List.map_map]
  exact messages

end Dispatch

end Lintel
