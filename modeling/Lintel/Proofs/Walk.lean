import Lintel.Dispatch

/-!
# The walk as a list of visits

A walk comes to the nodes of a module in pre-order, each with its position. Whatever happens to its
token, it gives the outputs of all of them or nothing, and it gives nothing only once the token is
cancelled.
-/

set_option autoImplicit false

namespace Lintel

namespace CancelToken

/-- What a look finds, and what it leaves: a cancelled token stays as it is, and one that is found
uncancelled was so before. -/
theorem look_cases (token : CancelToken) :
    (∃ after, token.look = (true, after) ∧ after.cancelled = true) ∨
      ∃ after, token.look = (false, after) ∧ token.cancelled = false ∧ after.cancelled = false := by
  obtain ⟨cancelled, looksLeft⟩ := token
  cases cancelled with
  | true => exact .inl ⟨_, rfl, rfl⟩
  | false =>
    rcases looksLeft with _ | _ | looks
    · exact .inr ⟨_, rfl, rfl, rfl⟩
    · exact .inl ⟨_, rfl, rfl⟩
    · exact .inr ⟨_, rfl, rfl, rfl⟩

theorem cancelled_of_look {token : CancelToken} (looked : token.look.1 = false) :
    token.cancelled = false := by
  rcases token.look_cases with ⟨after, look, _⟩ | ⟨after, look, notCancelled, _⟩
  · rw [look] at looked
    cases looked
  · exact notCancelled

@[simp] theorem look_fresh : fresh.look = (false, fresh) := rfl

theorem look_of_cancelled {token : CancelToken} (cancelled : token.cancelled = true) :
    token.look = (true, token) := by
  simp [look, cancelled]

@[simp] theorem cancelIf_false (token : CancelToken) : token.cancelIf false = token := rfl

end CancelToken

namespace WalkOutput

theorem append_def (first second : WalkOutput) : first ++ second = first.append second := rfl

@[simp] theorem empty_append (output : WalkOutput) : ({} : WalkOutput) ++ output = output := by
  simp [append_def, append]

theorem append_assoc (first second third : WalkOutput) :
    first ++ second ++ third = first ++ (second ++ third) := by
  simp [append_def, append, Nat.add_assoc]

@[simp] theorem findings_append (first second : WalkOutput) :
    (first ++ second).findings = first.findings ++ second.findings := rfl

@[simp] theorem failures_append (first second : WalkOutput) :
    (first ++ second).failures = first.failures ++ second.failures := rfl

@[simp] theorem statements_append (first second : WalkOutput) :
    (first ++ second).statements = first.statements ++ second.statements := rfl

@[simp] theorem concat_nil : concat [] = {} := rfl

@[simp] theorem concat_cons (output : WalkOutput) (outputs : List WalkOutput) :
    concat (output :: outputs) = output ++ concat outputs := rfl

theorem findings_concat (outputs : List WalkOutput) :
    (concat outputs).findings = outputs.flatMap WalkOutput.findings := by
  induction outputs with
  | nil => rfl
  | cons output outputs ih => rw [concat_cons, findings_append, ih, List.flatMap_cons]

theorem failures_concat (outputs : List WalkOutput) :
    (concat outputs).failures = outputs.flatMap WalkOutput.failures := by
  induction outputs with
  | nil => rfl
  | cons output outputs ih => rw [concat_cons, failures_append, ih, List.flatMap_cons]

end WalkOutput

theorem Walk.run_bind {α β : Type} (walk : Walk α) (next : α → Walk β) (token : CancelToken) :
    (walk >>= next).run.run token =
      match walk.run.run token with
      | (none, after) => (none, after)
      | (some value, after) => (next value).run.run after := by
  simp only [OptionT.run_bind, Option.elimM, StateT.run_bind]
  rcases walk.run.run token with ⟨_ | value, after⟩ <;> rfl

/-- The rule without its requests to cancel the run. -/
def Rule.quiet (rule : Rule) : Rule :=
  { rule with evaluate := fun node context => ⟨(rule.evaluate node context).outcome, false⟩ }

/-- The routing without the requests of its rules to cancel the run. -/
def Routing.quiet (routing : Routing) : Routing :=
  ⟨routing.all.map fun route => { route with rule := route.rule.quiet }⟩

theorem Routing.routes_quiet (routing : Routing) (kind : NodeKind) :
    routing.quiet.routes kind =
      (routing.routes kind).map fun route => { route with rule := route.rule.quiet } := by
  simp only [routes, quiet, List.flatMap_map, List.map_flatMap, List.map_map]
  rfl

namespace Dispatch

/-- The nodes that a walk comes to from a node on, each with its position. -/
def visits (node : Node) (position : Position) : List (Node × Position) :=
  (node, position) :: node.children.attach.flatMap fun ⟨child, _⟩ =>
    visits child (position.enter node.kind)
termination_by sizeOf node
decreasing_by exact Node.sizeOf_lt_of_mem_children (by assumption)

/-- The nodes of a module in the order of the walk. -/
def visitsOf (body : List Python.Stmt) : List (Node × Position) :=
  body.flatMap fun statement => visits (.stmt statement) .top

/-- The walk along a list of visits. -/
def follow (routing : Routing) (source : SourceContext) : List (Node × Position) → Walk WalkOutput
  | [] => return {}
  | (node, position) :: ahead => do
    Walk.checkpoint
    let (here, cancels) := atNode routing source node position
    Walk.request cancels
    let later ← follow routing source ahead
    return here ++ later

/-- What the nodes of a list of visits add to the output of a walk. -/
def outputOf (routing : Routing) (source : SourceContext) (ahead : List (Node × Position)) :
    WalkOutput :=
  .concat (ahead.map fun (node, position) => (atNode routing source node position).1)

section Follow

variable (routing : Routing) (source : SourceContext)

theorem follow_append (first second : List (Node × Position)) :
    follow routing source (first ++ second) = (do
      let early ← follow routing source first
      let later ← follow routing source second
      return early ++ later) := by
  induction first with
  | nil => simp only [follow, List.nil_append, pure_bind, WalkOutput.empty_append, bind_pure]
  | cons visit ahead ih =>
    simp only [follow, List.cons_append, ih, bind_assoc, pure_bind, WalkOutput.append_assoc]

private theorem concat_mapM_eq_follow {α : Type} (items : List α) (walk : α → Walk WalkOutput)
    (visitsAt : α → List (Node × Position))
    (same : ∀ item ∈ items, walk item = follow routing source (visitsAt item)) :
    (do let outputs ← items.mapM walk; return WalkOutput.concat outputs) =
      follow routing source (items.flatMap visitsAt) := by
  induction items with
  | nil => simp only [List.mapM_nil, pure_bind, WalkOutput.concat_nil, List.flatMap_nil, follow]
  | cons item items ih =>
    have rest := ih fun other member => same other (List.mem_cons_of_mem _ member)
    rw [List.flatMap_cons, follow_append, ← rest, ← same item List.mem_cons_self]
    simp only [List.mapM_cons, bind_assoc, pure_bind, WalkOutput.concat_cons]

theorem visit_eq_follow (node : Node) (position : Position) :
    visit routing source node position = follow routing source (visits node position) := by
  induction node, position using visits.induct with
  | case1 node position ih =>
    rw [visit, visits]
    simp only [follow]
    rw [← concat_mapM_eq_follow routing source node.children.attach
      (fun child => visit routing source child.1 (position.enter node.kind))]
    · simp only [bind_assoc, pure_bind]
    · intro child _
      exact ih child.1 child.2

/-- A walk over a module hands its nodes to the rules one after another, in pre-order. -/
theorem run_eq_follow (body : List Python.Stmt) (token : CancelToken) :
    run routing source body token = (follow routing source (visitsOf body)).run.run token := by
  have same := concat_mapM_eq_follow routing source body
    (fun statement => visit routing source (.stmt statement) .top)
    (fun statement => visits (.stmt statement) .top)
    (fun statement _ => visit_eq_follow routing source (.stmt statement) .top)
  rw [run, visitBody, same, visitsOf]

theorem follow_cons (node : Node) (position : Position) (ahead : List (Node × Position))
    (token : CancelToken) :
    (follow routing source ((node, position) :: ahead)).run.run token =
      match token.look with
      | (true, after) => (none, after)
      | (false, after) =>
        let here := atNode routing source node position
        let later := (follow routing source ahead).run.run (after.cancelIf here.2)
        (later.1.map (here.1 ++ ·), later.2) := by
  have checked : Walk.checkpoint.run.run token = match token.look with
    | (true, after) => (none, after)
    | (false, after) => (some (), after) := rfl
  have requested : ∀ (cancels : Bool) (after : CancelToken),
      (Walk.request cancels).run.run after = (some (), after.cancelIf cancels) := fun _ _ => rfl
  simp only [follow, Walk.run_bind, checked]
  rcases token.look with ⟨_ | _, after⟩
  · simp only [requested]
    rcases (follow routing source ahead).run.run _ with ⟨_ | later, last⟩ <;> rfl
  · rfl

theorem outputOf_cons (node : Node) (position : Position) (ahead : List (Node × Position)) :
    outputOf routing source ((node, position) :: ahead) =
      (atNode routing source node position).1 ++ outputOf routing source ahead := rfl

/-- A walk gives the whole output of its visits, or it gives nothing and its token is cancelled. -/
theorem follow_cases (ahead : List (Node × Position)) (token : CancelToken) :
    (∃ after, (follow routing source ahead).run.run token =
        (some (outputOf routing source ahead), after)) ∨
      ∃ after, (follow routing source ahead).run.run token = (none, after) ∧
        after.cancelled = true := by
  induction ahead generalizing token with
  | nil => exact .inl ⟨token, rfl⟩
  | cons visit ahead ih =>
    obtain ⟨node, position⟩ := visit
    rw [follow_cons]
    rcases token.look_cases with ⟨after, look, cancelled⟩ | ⟨after, look, _⟩
    · rw [look]
      exact .inr ⟨after, rfl, cancelled⟩
    · rw [look]
      rcases ih (after.cancelIf (atNode routing source node position).2) with
        ⟨last, later⟩ | ⟨last, later, cancelled⟩
      · exact .inl ⟨last, by simp only [later, Option.map_some, outputOf_cons]⟩
      · exact .inr ⟨last, by simp only [later, Option.map_none], cancelled⟩

/-- Nobody cancels a walk whose token is left alone from outside and whose rules do not ask for it. -/
theorem follow_fresh (ahead : List (Node × Position))
    (calm : ∀ visit ∈ ahead, (atNode routing source visit.1 visit.2).2 = false) :
    (follow routing source ahead).run.run .fresh =
      (some (outputOf routing source ahead), .fresh) := by
  induction ahead with
  | nil => rfl
  | cons visit ahead ih =>
    obtain ⟨node, position⟩ := visit
    have here := calm (node, position) List.mem_cons_self
    have later := ih fun other member => calm other (List.mem_cons_of_mem _ member)
    rw [follow_cons, CancelToken.look_fresh]
    simp only [here, CancelToken.cancelIf_false, later, Option.map_some, outputOf_cons]

end Follow

/-- Without its requests a routing finds the same at a node and cancels nothing. -/
theorem atNode_quiet (routing : Routing) (source : SourceContext) (node : Node) (position : Position) :
    atNode routing.quiet source node position = ((atNode routing source node position).1, false) := by
  simp only [atNode, Routing.routes_quiet, List.map_map, Prod.mk.injEq]
  refine ⟨rfl, ?_⟩
  rw [List.any_map, List.any_eq_false]
  intro route _ requested
  cases requested

theorem outputOf_quiet (routing : Routing) (source : SourceContext) (ahead : List (Node × Position)) :
    outputOf routing.quiet source ahead = outputOf routing source ahead := by
  simp only [outputOf, atNode_quiet]

/-- What a walk over a module gives if nothing cuts it short. -/
def fullOutput (routing : Routing) (source : SourceContext) (body : List Python.Stmt) : WalkOutput :=
  outputOf routing source (visitsOf body)

theorem run_cases (routing : Routing) (source : SourceContext) (body : List Python.Stmt)
    (token : CancelToken) :
    (∃ after, run routing source body token = (some (fullOutput routing source body), after)) ∨
      ∃ after, run routing source body token = (none, after) ∧ after.cancelled = true := by
  rw [run_eq_follow]
  exact follow_cases routing source (visitsOf body) token

theorem run_fresh (routing : Routing) (source : SourceContext) (body : List Python.Stmt)
    (calm : ∀ node position, (atNode routing source node position).2 = false) :
    run routing source body .fresh = (some (fullOutput routing source body), .fresh) := by
  rw [run_eq_follow]
  exact follow_fresh routing source (visitsOf body) fun visit _ => calm visit.1 visit.2

/-- The whole output is what the walk gives when its rules ask for nothing and nobody cancels it. -/
theorem run_quiet_fresh (routing : Routing) (source : SourceContext) (body : List Python.Stmt) :
    run routing.quiet source body .fresh = (some (fullOutput routing source body), .fresh) := by
  rw [run_fresh _ _ _ fun node position => by rw [atNode_quiet], fullOutput, outputOf_quiet]
  rfl

section Content

variable (routing : Routing) (source : SourceContext)

theorem findings_atNode (node : Node) (position : Position) :
    (atNode routing source node position).1.findings =
      (routing.routes node.kind).flatMap fun route =>
        (record source node route (evaluate source node position route).outcome).findings := by
  simp only [atNode, WalkOutput.findings_concat, List.flatMap_map]

theorem failures_atNode (node : Node) (position : Position) :
    (atNode routing source node position).1.failures =
      (routing.routes node.kind).flatMap fun route =>
        (record source node route (evaluate source node position route).outcome).failures := by
  simp only [atNode, WalkOutput.failures_concat, List.flatMap_map]

theorem mem_findings_record {node : Node} {route : Route} {outcome : Outcome} {finding : Finding} :
    finding ∈ (record source node route outcome).findings ↔
      ∃ found, outcome = .findings found ∧ finding ∈ found := by
  cases outcome <;> simp [record]

theorem mem_failures_record {node : Node} {route : Route} {outcome : Outcome} {failure : RuleFailure} :
    failure ∈ (record source node route outcome).failures ↔
      ∃ reason, failureReason? outcome = some reason ∧
        failure = ⟨route.rule.id, Span.ofExtent source.lines node.extent, reason⟩ := by
  cases reason : failureReason? outcome <;> simp [record, reason]

/-- The findings of a walk are those that some route gives at some visited node. -/
theorem mem_findings_outputOf {ahead : List (Node × Position)} {finding : Finding} :
    finding ∈ (outputOf routing source ahead).findings ↔
      ∃ visit ∈ ahead, ∃ route ∈ routing.routes visit.1.kind, ∃ found,
        (evaluate source visit.1 visit.2 route).outcome = .findings found ∧ finding ∈ found := by
  simp only [outputOf, WalkOutput.findings_concat, List.flatMap_map, List.mem_flatMap, findings_atNode,
    mem_findings_record]

/-- The failures of a walk are those of the routes that err or crash at some visited node. -/
theorem mem_failures_outputOf {ahead : List (Node × Position)} {failure : RuleFailure} :
    failure ∈ (outputOf routing source ahead).failures ↔
      ∃ visit ∈ ahead, ∃ route ∈ routing.routes visit.1.kind, ∃ reason,
        failureReason? (evaluate source visit.1 visit.2 route).outcome = some reason ∧
          failure = ⟨route.rule.id, Span.ofExtent source.lines visit.1.extent, reason⟩ := by
  simp only [outputOf, WalkOutput.failures_concat, List.flatMap_map, List.mem_flatMap, failures_atNode,
    mem_failures_record]

theorem statements_outputOf (ahead : List (Node × Position)) :
    (outputOf routing source ahead).statements =
      ahead.flatMap fun visit => statementLines source visit.1 := by
  induction ahead with
  | nil => rfl
  | cons visit ahead ih =>
    obtain ⟨node, position⟩ := visit
    rw [outputOf_cons, WalkOutput.statements_append, ih, List.flatMap_cons]
    rfl

end Content

end Dispatch

end Lintel
