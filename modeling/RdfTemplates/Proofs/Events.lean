import RdfTemplates.Proofs.Agreement
import RdfTemplates.Proofs.Outcome
import RdfTemplates.Proofs.Pervasive

/-!
# Independence of events

An expansion records what happens and never looks at the record.  So what comes
of a root depends on nothing but the context in which it is expanded.
-/

namespace RdfTemplates.Expansion

/-- States that differ at most in what has been recorded. -/
def besidesEvents : Comparison ExpansionState ExpansionState where
  states left right := left.context = right.context ∧ left.output = right.output
  leftExcused _ := False
  rightExcused _ := False
  failures failure left other right :=
    failure = other ∧ left.context = right.context ∧ left.output = right.output

theorem strict_besidesEvents : besidesEvents.Strict :=
  fun _ => ⟨id, id⟩

/-- The step does the same whatever has been recorded. -/
def IgnoresEvents {α : Type} (step : Expansion α) : Prop :=
  besidesEvents.Agree Eq step step

section Steps

variable {α : Type}

theorem ignoresEvents_of_results {step : Expansion α}
    (same : ∀ context output events otherEvents, besidesEvents.Results Eq
      (step { context, output, events })
      (step { context, output, events := otherEvents })) :
    IgnoresEvents step := by
  intro left right states
  obtain ⟨context, output, events⟩ := left
  obtain ⟨otherContext, otherOutput, otherEvents⟩ := right
  obtain ⟨sameContext, sameOutput⟩ := states
  cases sameContext
  cases sameOutput
  exact same context output events otherEvents

theorem sequential_ignoresEvents : Sequential IgnoresEvents where
  pure _ := .pure rfl
  bind first continues := by
    apply first.bind
    intro value other same
    subst same
    exact continues value

theorem ignoresEvents_fail (fault : Fault) :
    IgnoresEvents (fail fault : Expansion α) :=
  ignoresEvents_of_results fun _ _ _ _ => Or.inr (Or.inr ⟨rfl, rfl, rfl⟩)

theorem ignoresEvents_record (event : Event) : IgnoresEvents (record event) :=
  ignoresEvents_of_results fun _ _ _ _ => ⟨rfl, rfl, rfl⟩

theorem emissive_ignoresEvents : Emissive IgnoresEvents where
  toSequential := sequential_ignoresEvents
  refuse _ _ _ := ignoresEvents_fail _
  drop := ignoresEvents_record .tripleDropped
  emit _ := ignoresEvents_of_results fun _ _ _ _ => ⟨rfl, rfl, rfl⟩
  freshBlank := ignoresEvents_of_results fun _ _ _ _ => ⟨rfl, rfl, rfl⟩

theorem ignoresEvents_bodyTerm (scope : ScopeId) (placeholders : Placeholders)
    (term : Term) : IgnoresEvents (bodyTerm scope placeholders term) := by
  apply ignoresEvents_of_results
  intro context output events otherEvents
  simp only [bodyTerm]
  cases context.scopes.resolve scope
    (placeholders.localize context.labels term).1 with
  | ok value => exact ⟨rfl, rfl, rfl⟩
  | error fault => exact Or.inr (Or.inr ⟨rfl, rfl, rfl⟩)

theorem ignoresEvents_bindName (scope : ScopeId) (name : String)
    (value : Term) : IgnoresEvents (bindName scope name value) := by
  apply ignoresEvents_of_results
  intro context output events otherEvents
  simp only [bindName]
  cases context.scopes.bind scope name value with
  | ok scopes => exact ⟨rfl, rfl, rfl⟩
  | error fault => exact Or.inr (Or.inr ⟨rfl, rfl, rfl⟩)

theorem ignoresEvents_enter (call : Instance) : IgnoresEvents (enter call) := by
  apply ignoresEvents_of_results
  intro context output events otherEvents
  simp only [enter]
  cases context.enter call with
  | ok active => exact ⟨rfl, rfl, rfl⟩
  | error failure => exact Or.inr (Or.inr ⟨rfl, rfl, rfl⟩)

/-- A result with its context changed, whether it is a failure or not. -/
def afterwards (change : Context → Context) :
    EStateM.Result Failure ExpansionState α →
      EStateM.Result Failure ExpansionState α
  | .ok value state => .ok value { state with context := change state.context }
  | .error failure state =>
      .error failure { state with context := change state.context }

theorem results_afterwards {change : Context → Context}
    {left right : EStateM.Result Failure ExpansionState α}
    (results : besidesEvents.Results Eq left right) :
    besidesEvents.Results Eq (afterwards change left)
      (afterwards change right) := by
  rcases results.outcomes strict_besidesEvents with
    ⟨value, state, other, otherState, rfl, rfl, same, sameContext, sameOutput⟩ |
    ⟨failure, state, other, otherState, rfl, rfl, same, sameContext, sameOutput⟩
  · exact ⟨same, congrArg change sameContext, sameOutput⟩
  · exact Or.inr (Or.inr ⟨same, congrArg change sameContext, sameOutput⟩)

theorem ignoresEvents_calling (call : Instance) {step : Expansion Unit}
    (inside : IgnoresEvents step) : IgnoresEvents (calling call step) := by
  apply ignoresEvents_of_results
  intro context output events otherEvents
  cases entered : context.enter call with
  | error failure =>
      simp only [calling, enter, entered]
      exact Or.inr (Or.inr ⟨rfl, rfl, rfl⟩)
  | ok active =>
      have runs (events : Array Event) :
          calling call step { context, output, events } =
            afterwards Context.leave
              (step { context := active, output, events }) := by
        simp only [calling, enter, entered]
        cases step { context := active, output, events } <;> rfl
      rw [runs, runs]
      exact results_afterwards (inside _ _ ⟨rfl, rfl⟩)

theorem ignoresEvents_releasing {step : Expansion α}
    (inside : IgnoresEvents step) : IgnoresEvents (releasing step) := by
  apply ignoresEvents_of_results
  intro context output events otherEvents
  have runs (events : Array Event) :
      releasing step { context, output, events } =
        afterwards (fun last =>
          { last with scopes := last.scopes.release context.scopes.size })
          (step { context, output, events }) := by
    simp only [releasing]
    cases step { context, output, events } <;> rfl
  rw [runs, runs]
  exact results_afterwards (inside _ _ ⟨rfl, rfl⟩)

theorem scoping_ignoresEvents : Scoping IgnoresEvents where
  toSequential := sequential_ignoresEvents
  pushScope _ := ignoresEvents_of_results fun _ _ _ _ => ⟨rfl, rfl, rfl⟩
  bindName := ignoresEvents_bindName
  releasing := ignoresEvents_releasing

theorem pervasive_ignoresEvents : Pervasive IgnoresEvents where
  pure := sequential_ignoresEvents.pure
  bind := sequential_ignoresEvents.bind
  fail := ignoresEvents_fail
  context := ignoresEvents_of_results fun _ _ _ _ => ⟨rfl, rfl, rfl⟩
  record := ignoresEvents_record
  bodyTerm := ignoresEvents_bodyTerm
  writeTriple := emissive_ignoresEvents.writeTriple
  enter := ignoresEvents_enter
  calling := ignoresEvents_calling
  inScope := scoping_ignoresEvents.inScope

end Steps

/-! ## Roots -/

/-- States in one context.  The output does not matter to a root, which has one
of its own. -/
def sameContext : Comparison ExpansionState ExpansionState where
  states left right := left.context = right.context
  leftExcused _ := False
  rightExcused _ := False
  failures failure left other right :=
    failure = other ∧ left.context = right.context

theorem sameContext_fail (fault : Fault) :
    sameContext.Agree Eq (fail fault : Expansion (List Triple)) (fail fault) :=
  fun _ _ same => Or.inr (Or.inr ⟨congrArg (·.fail fault) same, same⟩)

theorem sameContext_collecting {step : Expansion Unit}
    (inside : IgnoresEvents step) :
    sameContext.Agree Eq (collecting step) (collecting step) := by
  intro left right same
  have results :=
    inside { left with output := #[] } { right with output := #[] } ⟨same, rfl⟩
  simp only [collecting]
  rcases results.outcomes strict_besidesEvents with
    ⟨_, leftLast, _, rightLast, leftEnd, rightEnd, _, sameEnd, sameOutput⟩ |
    ⟨_, leftLast, _, rightLast, leftEnd, rightEnd, sameFailure, sameEnd, _⟩
  · rw [leftEnd, rightEnd]
    exact ⟨congrArg Array.toList sameOutput, sameEnd⟩
  · rw [leftEnd, rightEnd]
    exact Or.inr (Or.inr ⟨sameFailure, sameEnd⟩)

theorem sameContext_expandRoot (library : Library) (root : Instance) :
    sameContext.Agree Eq (expandRoot library root)
      (expandRoot library root) := by
  obtain ⟨fault, _, refused⟩ | ⟨name, collects⟩ := expandRoot_cases library root
  · rw [refused]
    exact sameContext_fail fault
  · rw [collects]
    apply sameContext_collecting
    exact pervasive_ignoresEvents.expandInstance library
      { root with template := name }

/-- What comes of a root in any state is its outcome in the context of the
state. -/
theorem expandRoot_outcome (library : Library) (root : Instance)
    (state : ExpansionState) :
    (∃ triples last, expandRoot library root state = .ok triples last ∧
      outcome library state.context root =
        ⟨.ok triples, last.context.labels.allocated⟩) ∨
      ∃ failure last, expandRoot library root state = .error failure last ∧
        outcome library state.context root =
          ⟨.error failure, last.context.labels.allocated⟩ := by
  have results :=
    sameContext_expandRoot library root state { context := state.context } rfl
  rcases results.outcomes (fun _ => ⟨id, id⟩) with
    ⟨triples, last, _, freshLast, ended, freshEnd, rfl, sameEnd⟩ |
    ⟨failure, last, _, freshLast, ended, freshEnd, rfl, sameEnd⟩
  · refine Or.inl ⟨triples, last, ended, ?_⟩
    rw [outcome, freshEnd, show last.context = freshLast.context from sameEnd]
  · refine Or.inr ⟨failure, last, ended, ?_⟩
    rw [outcome, freshEnd, show last.context = freshLast.context from sameEnd]

end RdfTemplates.Expansion
