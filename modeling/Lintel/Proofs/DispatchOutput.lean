import Lintel.Proofs.BuiltinRules
import Lintel.Proofs.DiagnosticOrder
import Lintel.Proofs.Routes
import Lintel.Proofs.Walk
import Mathlib.Data.List.Basic

/-!
# The output of a walk by its turns

A walk that nobody cancels hands each node of a module to the routes of its kind. Its output is described
here without the walk, by the list of these turns: the nodes in pre-order, each with the nodes around it,
and for each node its routes. A rule that errs or crashes takes away nothing but its own findings at that
node, and a rule that is left out takes away its own turns and nothing else.
-/

set_option autoImplicit false

namespace Lintel

/-! ## Nodes and the nodes around them -/

/-- The position of a node inside the given ones, the nearest first. -/
def Position.inside (ancestors : List Node) : Position where
  depth := ancestors.countP fun ancestor => ancestor.kind.isBlock
  parent := ancestors.head?.map Node.kind
  inFunction := ancestors.any fun ancestor => ancestor.kind.isFunction
  inClass := ancestors.any fun ancestor => ancestor.kind = .classDef

theorem Position.inside_cons (node : Node) (ancestors : List Node) :
    inside (node :: ancestors) = (inside ancestors).enter node.kind := by
  simp only [inside, enter, List.countP_cons, List.head?_cons, Option.map_some, List.any_cons, mk.injEq,
    true_and]
  refine ⟨?_, Bool.or_comm _ _, Bool.or_comm _ _⟩
  cases node.kind.isBlock <;> rfl

namespace Node

/-- A node and everything below it in pre-order, each with the nodes around it, the nearest first. -/
def lineages (ancestors : List Node) (node : Node) : List (Node × List Node) :=
  (node, ancestors) :: node.children.attach.flatMap fun ⟨child, _⟩ => child.lineages (node :: ancestors)
termination_by sizeOf node
decreasing_by exact Node.sizeOf_lt_of_mem_children (by assumption)

theorem map_fst_lineages (ancestors : List Node) (node : Node) :
    (node.lineages ancestors).map Prod.fst = node.walk := by
  induction ancestors, node using lineages.induct with
  | case1 ancestors node ih =>
    rw [lineages, walk, List.map_cons, List.map_flatMap]
    congr 2
    funext child
    exact ih child.1 child.2

end Node

/-- The nodes of a module in pre-order, each with the nodes around it. -/
def lineagesOf (body : List Python.Stmt) : List (Node × List Node) :=
  body.flatMap fun statement => (Node.stmt statement).lineages []

theorem map_fst_lineagesOf (body : List Python.Stmt) : (lineagesOf body).map Prod.fst = walkBody body := by
  simp only [lineagesOf, walkBody, List.map_flatMap, Node.map_fst_lineages]

namespace Dispatch

theorem visits_eq_lineages (ancestors : List Node) (node : Node) :
    visits node (.inside ancestors) =
      (node.lineages ancestors).map fun (inner, around) => (inner, .inside around) := by
  induction ancestors, node using Node.lineages.induct with
  | case1 ancestors node ih =>
    rw [visits, Node.lineages, List.map_cons, List.map_flatMap]
    congr 2
    funext child
    rw [← Position.inside_cons]
    exact ih child.1 child.2

/-- A walk finds each node at the position that the nodes around it give it. -/
theorem visitsOf_eq_lineagesOf (body : List Python.Stmt) :
    visitsOf body = (lineagesOf body).map fun (node, ancestors) => (node, .inside ancestors) := by
  simp only [visitsOf, lineagesOf, List.map_flatMap, ← visits_eq_lineages]
  rfl

end Dispatch

/-! ## Turns -/

/-- A node, with the nodes around it, in the hands of a route. -/
structure Turn where
  node : Node
  ancestors : List Node
  route : Route

namespace Turn

/-- The turns of a walk that is not cut short. -/
def all (routing : Routing) (body : List Python.Stmt) : List Turn :=
  (lineagesOf body).flatMap fun (node, ancestors) =>
    (routing.routes node.kind).map fun route => ⟨node, ancestors, route⟩

/-- How the evaluation of a turn ends. -/
def outcome (source : SourceContext) (turn : Turn) : Outcome :=
  (turn.route.rule.evaluate turn.node
    ⟨source, .inside turn.ancestors, turn.route.parameters⟩).outcome

/-- What a turn finds; one that fails finds nothing. -/
def found (source : SourceContext) (turn : Turn) : List Finding :=
  match turn.outcome source with
  | .findings found => found
  | .error _ | .crash _ => []

/-- The failure of a turn that errs or crashes, under the id of its rule and at its node. -/
def failure? (source : SourceContext) (turn : Turn) : Option RuleFailure :=
  match turn.outcome source with
  | .findings _ => none
  | .error cause => some (failed cause.message)
  | .crash message => some (failed ("panicked: " ++ message.getD "unknown panic payload"))
where
  failed (reason : String) : RuleFailure :=
    ⟨turn.route.rule.id, Span.ofExtent source.lines turn.node.extent, reason⟩

theorem ruleId_of_failure? {source : SourceContext} {turn : Turn} {failure : RuleFailure}
    (failed : turn.failure? source = some failure) : failure.ruleId = turn.route.rule.id := by
  unfold failure? at failed
  cases outcome : turn.outcome source with
  | findings found =>
    rw [outcome] at failed
    cases failed
  | error cause =>
    rw [outcome] at failed
    cases failed
    rfl
  | crash message =>
    rw [outcome] at failed
    cases failed
    rfl

end Turn

/-- The output of a walk as its turns tell it. -/
structure WalkOutput.Accounts (routing : Routing) (source : SourceContext) (body : List Python.Stmt)
    (output : WalkOutput) : Prop where
  findings : output.findings = (Turn.all routing body).flatMap (Turn.found source)
  failures : output.failures = (Turn.all routing body).filterMap (Turn.failure? source)
  evaluations : output.evaluations = (Turn.all routing body).length
  statements : output.statements = (walkBody body).flatMap fun node =>
    if node.isStmt then [(source.lines.lineOf node.extent.start, source.lines.lineOf node.extent.stop)]
    else []

namespace Dispatch

section Accounts

variable (routing : Routing) (source : SourceContext)

/-- Evaluations are counted by listing what is evaluated. -/
theorem evaluations_concat {α β : Type} {items : List α} {output : α → WalkOutput} {listed : α → List β}
    (counted : ∀ item ∈ items, (output item).evaluations = (listed item).length) :
    (WalkOutput.concat (items.map output)).evaluations = (items.flatMap listed).length := by
  induction items with
  | nil => rfl
  | cons item items ih =>
    have here := counted item List.mem_cons_self
    have later := ih fun other member => counted other (List.mem_cons_of_mem _ member)
    rw [List.flatMap_cons, List.length_append, ← here, ← later]
    rfl

theorem evaluations_atNode (node : Node) (position : Position) :
    (atNode routing source node position).1.evaluations = (routing.routes node.kind).length := by
  have once : (WalkOutput.concat ((routing.routes node.kind).map fun route =>
      record source node route (evaluate source node position route).outcome)).evaluations =
      ((routing.routes node.kind).flatMap fun route => [route]).length :=
    evaluations_concat fun _ _ => rfl
  rw [List.flatMap_singleton'] at once
  rw [← once]
  simp only [atNode, List.map_map, Function.comp_def]

theorem findings_record (node : Node) (ancestors : List Node) (route : Route) :
    (record source node route (evaluate source node (.inside ancestors) route).outcome).findings =
      Turn.found source ⟨node, ancestors, route⟩ := by
  simp only [record, Turn.found, Turn.outcome, evaluate]
  cases (route.rule.evaluate node ⟨source, .inside ancestors, route.parameters⟩).outcome <;> rfl

theorem failures_record (node : Node) (ancestors : List Node) (route : Route) :
    (record source node route (evaluate source node (.inside ancestors) route).outcome).failures =
      (Turn.failure? source ⟨node, ancestors, route⟩).toList := by
  simp only [record, Turn.failure?, Turn.outcome, evaluate]
  cases (route.rule.evaluate node ⟨source, .inside ancestors, route.parameters⟩).outcome <;> rfl

/-- The whole output of a walk is what its turns tell. -/
theorem accounts_fullOutput (body : List Python.Stmt) :
    (fullOutput routing source body).Accounts routing source body where
  findings := by
    simp only [fullOutput, outputOf, visitsOf_eq_lineagesOf, WalkOutput.findings_concat, List.flatMap_map,
      findings_atNode, findings_record, Turn.all, List.flatMap_assoc]
  failures := by
    simp only [fullOutput, outputOf, visitsOf_eq_lineagesOf, WalkOutput.failures_concat, List.flatMap_map,
      failures_atNode, failures_record, Turn.all, List.filterMap_eq_flatMap_toList, List.flatMap_assoc]
  evaluations := by
    rw [fullOutput, outputOf, visitsOf_eq_lineagesOf, List.map_map, Turn.all]
    refine evaluations_concat fun lineage _ => ?_
    rw [List.length_map]
    exact evaluations_atNode routing source lineage.1 (.inside lineage.2)
  statements := by
    rw [fullOutput, statements_outputOf, visitsOf_eq_lineagesOf, List.flatMap_map, ← map_fst_lineagesOf,
      List.flatMap_map]
    congr 1
    funext lineage
    cases lineage.1 <;> rfl

end Accounts

end Dispatch

/-! ## Rules that are left out -/

/-- Leaving items out leaves out what they give, as far as it can be told from whom it comes. -/
theorem flatMap_filter {α β : Type} {items : List α} {keep : α → Bool} {give : α → List β}
    {kept : β → Bool} (same : ∀ item ∈ items, ∀ given ∈ give item, kept given = keep item) :
    (items.filter keep).flatMap give = (items.flatMap give).filter kept := by
  induction items with
  | nil => rfl
  | cons item items ih =>
    have here := same item List.mem_cons_self
    have later := ih fun other member => same other (List.mem_cons_of_mem _ member)
    rw [List.flatMap_cons, List.filter_append, ← later, List.filter_cons]
    cases decided : keep item with
    | true =>
      rw [if_pos rfl, List.flatMap_cons]
      congr 1
      refine (List.filter_eq_self.mpr ?_).symm
      intro given member
      rw [here given member, decided]
    | false =>
      have nothing : (give item).filter kept = [] := by
        rw [List.filter_eq_nil_iff]
        intro given member
        rw [here given member, decided]
        exact Bool.false_ne_true
      rw [nothing, List.nil_append, if_neg Bool.false_ne_true]

theorem Routing.routes_without (routing : Routing) (ids : List String) (kind : NodeKind) :
    (routing.without ids).routes kind =
      (routing.routes kind).filter fun route => !ids.contains route.rule.id := by
  refine flatMap_filter fun route _ other member => ?_
  obtain ⟨_, _, rfl⟩ := List.mem_map.mp member
  rfl

namespace Turn

variable (routing : Routing) (ids : List String) (source : SourceContext) (body : List Python.Stmt)

theorem all_without :
    all (routing.without ids) body =
      (all routing body).filter fun turn => !ids.contains turn.route.rule.id := by
  simp only [all, Routing.routes_without, List.filter_flatMap, List.filter_map]
  rfl

theorem failures_without :
    (all (routing.without ids) body).filterMap (failure? source) =
      ((all routing body).filterMap (failure? source)).filter fun failure =>
        !ids.contains failure.ruleId := by
  rw [all_without, List.filterMap_eq_flatMap_toList, List.filterMap_eq_flatMap_toList]
  refine flatMap_filter fun turn _ failure member => ?_
  rw [ruleId_of_failure? (Option.mem_toList.mp member)]

/-- Findings that go under the ids of their rules can be told apart by their ids. -/
theorem findings_without
    (labelled : ∀ turn ∈ all routing body, ∀ finding ∈ turn.found source,
      finding.ruleId = turn.route.rule.id) :
    (all (routing.without ids) body).flatMap (found source) =
      ((all routing body).flatMap (found source)).filter fun finding =>
        !ids.contains finding.ruleId := by
  rw [all_without]
  refine flatMap_filter fun turn member finding inside => ?_
  rw [labelled turn member finding inside]

end Turn

/-! ## Rules in order -/

/-- Rules in strictly ascending order of id. -/
def Registry.Ascending (rules : List Rule) : Prop :=
  rules.Pairwise fun first second => orderText first.id second.id = .lt

namespace Registry

theorem ascending_insertRule (rule : Rule) {rules : List Rule} (ascending : Ascending rules) :
    Ascending (insertRule rule rules) := by
  induction rules with
  | nil => exact List.pairwise_singleton _ _
  | cons first rest ih =>
    obtain ⟨leading, remaining⟩ := List.pairwise_cons.mp ascending
    rw [insertRule]
    by_cases taken : rule.id = first.id
    · rw [if_pos taken]
      exact ascending
    · rw [if_neg taken]
      by_cases earlier : Table.keyPrecedes rule.id first.id = true
      · have below : orderText rule.id first.id = .lt := by simp [orderText, taken, earlier]
        rw [if_pos earlier]
        refine List.pairwise_cons.mpr ⟨fun other member => ?_, ascending⟩
        rcases List.mem_cons.mp member with rfl | later
        · exact below
        · exact Std.TransCmp.lt_trans below (leading other later)
      · have above : orderText rule.id first.id = .gt := by simp [orderText, taken, earlier]
        rw [if_neg earlier]
        refine List.pairwise_cons.mpr ⟨fun other member => ?_, ih remaining⟩
        rcases mem_insertRule member with rfl | later
        · exact Std.OrientedCmp.lt_of_gt above
        · exact leading other later

theorem ascending_ofRules (rules : List Rule) : Ascending (ofRules rules).rules := by
  have kept : ∀ (later kept : List Rule), Ascending kept →
      Ascending (later.foldl (fun kept rule => insertRule rule kept) kept) := by
    intro later
    induction later with
    | nil => exact fun _ ascending => ascending
    | cons rule later ih => exact fun _ ascending => ih _ (ascending_insertRule rule ascending)
  exact kept rules [] List.Pairwise.nil

end Registry

namespace Routing

/-- The routings that a program can come by: that of a registry under a configuration, and what is left of
one without some rules. -/
inductive Built : Routing → Prop where
  | ofConfig (rules : List Rule) (config : Config) : Built (.ofConfig (.ofRules rules) config)
  | without {routing : Routing} (ids : List String) : Built routing → Built (routing.without ids)

theorem Built.ascending {routing : Routing} (built : routing.Built) :
    routing.all.Pairwise fun first second => orderText first.rule.id second.rule.id = .lt := by
  induction built with
  | ofConfig rules config =>
    refine List.Pairwise.filterMap _ ?_ (Registry.ascending_ofRules rules)
    intro first second below route routed other otherRouted
    obtain ⟨_, _, rfl⟩ := routeOf?_eq_some_iff.mp routed
    obtain ⟨_, _, rfl⟩ := routeOf?_eq_some_iff.mp otherRouted
    exact below
  | without ids _ ih => exact ih.filter _

/-- A node goes to its rules in the order of their ids, and to each as often as it subscribes. -/
theorem Built.routes_ordered {routing : Routing} (built : routing.Built) (kind : NodeKind) :
    (routing.routes kind).Pairwise fun first second =>
      (orderText first.rule.id second.rule.id).isLE = true := by
  refine List.pairwise_flatMap.mpr ⟨fun route _ => ?_, built.ascending.imp ?_⟩
  · refine List.pairwise_map.mpr (List.pairwise_of_forall fun _ _ => ?_)
    exact Ordering.isLE_of_eq_eq Std.ReflCmp.compare_self
  · intro first second below route member other otherMember
    obtain ⟨_, _, rfl⟩ := List.mem_map.mp member
    obtain ⟨_, _, rfl⟩ := List.mem_map.mp otherMember
    exact Ordering.isLE_of_eq_lt below

end Routing

namespace Dispatch

theorem run_of_uncancelled {routing : Routing} {source : SourceContext} {body : List Python.Stmt}
    {token : CancelToken} (uncancelled : (run routing source body token).2.cancelled = false) :
    (run routing source body token).1 = some (fullOutput routing source body) := by
  rcases run_cases routing source body token with ⟨after, walked⟩ | ⟨after, walked, cancelled⟩
  · rw [walked]
  · rw [walked] at uncancelled
    dsimp only at uncancelled
    rw [cancelled] at uncancelled
    cases uncancelled

/-- A walk that nobody cancels gives what its turns tell, and hands each node to its routes in the order of
the rules' ids. Without some of the rules it gives what is left without their turns. -/
theorem run_accounts_for_turns {routing : Routing} {source : SourceContext} {body : List Python.Stmt}
    {token : CancelToken} (uncancelled : (run routing source body token).2.cancelled = false) :
    ∃ output, (run routing source body token).1 = some output ∧ output.Accounts routing source body ∧
      (routing.Built → ∀ kind, (routing.routes kind).Pairwise fun first second =>
        (orderText first.rule.id second.rule.id).isLE = true) ∧
      ∀ ids other, (run (routing.without ids) source body other).2.cancelled = false →
        ∃ narrowed, (run (routing.without ids) source body other).1 = some narrowed ∧
          narrowed.findings = ((Turn.all routing body).filter fun turn =>
            !ids.contains turn.route.rule.id).flatMap (Turn.found source) ∧
          narrowed.failures = output.failures.filter (fun failure => !ids.contains failure.ruleId) ∧
          narrowed.statements = output.statements ∧
          ((∀ turn ∈ Turn.all routing body, ∀ finding ∈ turn.found source,
              finding.ruleId = turn.route.rule.id) →
            narrowed.findings = output.findings.filter fun finding => !ids.contains finding.ruleId) := by
  have accounts := accounts_fullOutput routing source body
  refine ⟨_, run_of_uncancelled uncancelled, accounts, fun built => built.routes_ordered, ?_⟩
  intro ids other undisturbed
  have narrowed := accounts_fullOutput (routing.without ids) source body
  refine ⟨_, run_of_uncancelled undisturbed, ?_, ?_, ?_, fun labelled => ?_⟩
  · rw [narrowed.findings, Turn.all_without]
  · rw [narrowed.failures, accounts.failures, Turn.failures_without]
  · rw [narrowed.statements, accounts.statements]
  · rw [narrowed.findings, accounts.findings, Turn.findings_without routing ids source body labelled]

section Instance

/-- A rule that finds every call. -/
def callFinder : Rule :=
  ⟨"call-finder", "Finds calls", .warning, true, [.call], [], fun node context =>
    .found [context.findingAt "call-finder" .warning node.extent "call"]⟩

/-- A rule that crashes at every call. -/
def callCrasher : Rule :=
  ⟨"call-crasher", "Crashes at calls", .error, true, [.call], [], fun _ _ => .pure (.crash none)⟩

/-- The call `f(g())`. -/
def nestedCall : List Python.Stmt :=
  [.expression ⟨0, 6⟩ (.call ⟨0, 6⟩ (.name ⟨0, 1⟩ "f")
    [.call ⟨2, 5⟩ (.name ⟨2, 3⟩ "g") [] []] [])]

end Instance

/-- Two rules at two calls, one of which crashes at both; without it the findings are the same. -/
theorem run_accounts_for_turns_crash :
    let routing : Routing := .ofConfig (.ofRules [callFinder, callCrasher])
      ⟨Config.initialRules (.ofRules [callFinder, callCrasher]) {}, [], [], .information, .error⟩
    let source : SourceContext := ⟨"a.py", Text.LineIndex.ofString "f(g())\n"⟩
    ∃ output, (run routing source nestedCall .fresh).1 = some output ∧
      output.Accounts routing source nestedCall ∧ output.evaluations = 4 ∧
      ∃ narrowed, (run (routing.without ["call-crasher"]) source nestedCall .fresh).1 = some narrowed ∧
        narrowed.failures = [] ∧ narrowed.findings = output.findings := by
  intro routing source
  have uncancelled : (run routing source nestedCall .fresh).2.cancelled = false := by decide +kernel
  have undisturbed : (run (routing.without ["call-crasher"]) source nestedCall .fresh).2.cancelled =
    false := by decide +kernel
  obtain ⟨output, walked, accounts, _, leftOut⟩ := run_accounts_for_turns uncancelled
  obtain ⟨narrowed, rewalked, findings, failures, _, _⟩ := leftOut ["call-crasher"] .fresh undisturbed
  have turns : (Turn.all routing nestedCall).length = 4 := by decide +kernel
  have found : ((Turn.all routing nestedCall).filter fun turn =>
      !(["call-crasher"].contains turn.route.rule.id)).flatMap (Turn.found source) =
      (Turn.all routing nestedCall).flatMap (Turn.found source) := by decide +kernel
  have failed : ((Turn.all routing nestedCall).filterMap (Turn.failure? source)).filter
      (fun failure => !(["call-crasher"].contains failure.ruleId)) = [] := by decide +kernel
  refine ⟨output, walked, accounts, accounts.evaluations.trans turns, narrowed, rewalked, ?_, ?_⟩
  · rw [failures, accounts.failures]
    exact failed
  · rw [findings, accounts.findings]
    exact found

end Dispatch

end Lintel
