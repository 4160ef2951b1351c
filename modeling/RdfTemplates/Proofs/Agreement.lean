import RdfTemplates.Expansion

/-!
# Agreement of programs

Two programs that may fail are run side by side from related states.  They agree
if their results are related again, or if one of them has ended in a failure
that excuses it.  The rules below follow the shape of a program, so that an
agreement is proved along the text of both.
-/

namespace RdfTemplates

/-- How the runs of two programs are compared. -/
structure Comparison (σ τ : Type) where
  /-- The states from which both programs go on. -/
  states : σ → τ → Prop
  /-- The failures of the first program after which nothing is asked of the
  second. -/
  leftExcused : Failure → Prop
  /-- The failures of the second program after which nothing is asked of the
  first. -/
  rightExcused : Failure → Prop
  /-- The failures that answer each other, with the states they leave behind. -/
  failures : Failure → σ → Failure → τ → Prop

namespace Comparison

variable {σ τ α β γ δ : Type}

/-- Two results answer each other. -/
def Results (comparison : Comparison σ τ) (values : α → β → Prop) :
    EStateM.Result Failure σ α → EStateM.Result Failure τ β → Prop
  | .ok left leftState, .ok right rightState =>
      values left right ∧ comparison.states leftState rightState
  | .error failure _, .ok _ _ => comparison.leftExcused failure
  | .ok _ _, .error failure _ => comparison.rightExcused failure
  | .error left leftState, .error right rightState =>
      comparison.leftExcused left ∨ comparison.rightExcused right ∨
        comparison.failures left leftState right rightState

/-- Two programs have results that answer each other from all related states. -/
def Agree (comparison : Comparison σ τ) (values : α → β → Prop)
    (left : EStateM Failure σ α) (right : EStateM Failure τ β) : Prop :=
  ∀ leftState rightState, comparison.states leftState rightState →
    comparison.Results values (left leftState) (right rightState)

/-- No failure excuses the other program. -/
def Strict (comparison : Comparison σ τ) : Prop :=
  ∀ failure, ¬ comparison.leftExcused failure ∧
    ¬ comparison.rightExcused failure

theorem Results.outcomes {comparison : Comparison σ τ} {values : α → β → Prop}
    {left : EStateM.Result Failure σ α} {right : EStateM.Result Failure τ β}
    (results : comparison.Results values left right)
    (strict : comparison.Strict) :
    (∃ value state other otherState, left = .ok value state ∧
      right = .ok other otherState ∧
      values value other ∧ comparison.states state otherState) ∨
      ∃ failure state other otherState, left = .error failure state ∧
        right = .error other otherState ∧
        comparison.failures failure state other otherState := by
  cases left with
  | ok value state =>
      cases right with
      | ok other otherState =>
          exact Or.inl ⟨value, state, other, otherState, rfl, rfl, results⟩
      | error failure otherState => exact absurd results (strict failure).2
  | error failure state =>
      cases right with
      | ok other otherState => exact absurd results (strict failure).1
      | error other otherState =>
          rcases results with excused | excused | related
          · exact absurd excused (strict failure).1
          · exact absurd excused (strict other).2
          · exact Or.inr ⟨failure, state, other, otherState, rfl, rfl, related⟩

namespace Agree

variable {comparison : Comparison σ τ}

theorem pure {values : α → β → Prop} {left : α} {right : β}
    (related : values left right) :
    comparison.Agree values (Pure.pure left) (Pure.pure right) :=
  fun _ _ states => ⟨related, states⟩

theorem bind {values : α → β → Prop} {results : γ → δ → Prop}
    {left : EStateM Failure σ α} {right : EStateM Failure τ β}
    {leftRest : α → EStateM Failure σ γ} {rightRest : β → EStateM Failure τ δ}
    (first : comparison.Agree values left right)
    (rest : ∀ a b, values a b →
      comparison.Agree results (leftRest a) (rightRest b)) :
    comparison.Agree results (left >>= leftRest) (right >>= rightRest) := by
  intro leftState rightState states
  have firstResults := first leftState rightState states
  show comparison.Results results (EStateM.bind left leftRest leftState)
    (EStateM.bind right rightRest rightState)
  unfold EStateM.bind
  cases leftEnd : left leftState with
  | ok a leftNext =>
      cases rightEnd : right rightState with
      | ok b rightNext =>
          rw [leftEnd, rightEnd] at firstResults
          exact rest a b firstResults.1 leftNext rightNext firstResults.2
      | error failure rightNext =>
          -- The first program may still go on to a failure of its own.
          rw [leftEnd, rightEnd] at firstResults
          cases restEnd : leftRest a leftNext with
          | ok c leftLast => simpa [Results, restEnd] using firstResults
          | error later leftLast =>
              simpa [Results, restEnd] using Or.inr (Or.inl firstResults)
  | error failure leftNext =>
      cases rightEnd : right rightState with
      | ok b rightNext =>
          rw [leftEnd, rightEnd] at firstResults
          cases restEnd : rightRest b rightNext with
          | ok d rightLast => simpa [Results, restEnd] using firstResults
          | error later rightLast =>
              simpa [Results, restEnd] using Or.inl firstResults
      | error other rightNext =>
          rw [leftEnd, rightEnd] at firstResults
          exact firstResults

/-- A step of the first program that only reads its state has no counterpart. -/
theorem bindLeft {reads : α → Prop} {results : γ → δ → Prop}
    {left : EStateM Failure σ α} {leftRest : α → EStateM Failure σ γ}
    {right : EStateM Failure τ δ}
    (first : comparison.Agree (fun a (_ : Unit) => reads a) left (Pure.pure ()))
    (rest : ∀ a, reads a → comparison.Agree results (leftRest a) right) :
    comparison.Agree results (left >>= leftRest) right := by
  have both : comparison.Agree results (left >>= leftRest)
      ((Pure.pure () : EStateM Failure τ Unit) >>= fun _ => right) :=
    bind first fun a _ => rest a
  exact both

end Agree

end Comparison

end RdfTemplates
