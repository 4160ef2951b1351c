import RdfTemplates.Proofs.Contract

/-!
# Contracts in the course of a run

What is known of a value may depend on how far the run has come: a label is
accounted for once it has been used.  Such facts have to last, as later states
of the run are reached.  So a contract is met from some state on, with an order
that tells which states come later.
-/

namespace RdfTemplates

/-- A contract, with the order in which the states of a run come. -/
structure Course (σ : Type) extends Contract σ where
  later : σ → σ → Prop
  refl : ∀ state, later state state
  trans : ∀ {first second third}, later first second → later second third →
    later first third

namespace Course

variable {σ α β : Type}

/-- A result of a program that was started in a given state. -/
def Results (course : Course σ) (start : σ) (values : σ → α → Prop) :
    EStateM.Result Failure σ α → Prop
  | .ok value state =>
      values state value ∧ course.states state ∧ course.later start state
  | .error failure state => course.failures failure state

/-- From every state after the origin, the program keeps to the contract, and
what it returns is of the kind that is expected in the state where it ends. -/
def MetFrom (course : Course σ) (origin : σ) (values : σ → α → Prop)
    (program : EStateM Failure σ α) : Prop :=
  ∀ state, course.states state → course.later origin state →
    course.Results state values (program state)

namespace MetFrom

variable {course : Course σ} {origin : σ} {values : σ → α → Prop}
  {results : σ → β → Prop}

theorem pure {value : α}
    (expected : ∀ state, course.later origin state → values state value) :
    course.MetFrom origin values (Pure.pure value) := by
  intro state allowed after
  exact ⟨expected state after, allowed, course.refl state⟩

theorem bind {program : EStateM Failure σ α} {rest : α → EStateM Failure σ β}
    (first : course.MetFrom origin values program)
    (continues : ∀ state value, course.later origin state → values state value →
      course.MetFrom state results (rest value)) :
    course.MetFrom origin results (program >>= rest) := by
  intro state allowed after
  have firstResult := first state allowed after
  show course.Results state results (EStateM.bind program rest state)
  simp only [EStateM.bind]
  cases ended : program state with
  | error failure next =>
      rw [ended] at firstResult
      exact firstResult
  | ok value next =>
      rw [ended] at firstResult
      obtain ⟨expected, nextAllowed, nextLater⟩ := firstResult
      have restResult := continues next value (course.trans after nextLater)
        expected next nextAllowed (course.refl next)
      simp only
      cases restEnded : rest value next with
      | error failure last =>
          rw [restEnded] at restResult
          exact restResult
      | ok result last =>
          rw [restEnded] at restResult
          obtain ⟨resultExpected, lastAllowed, lastLater⟩ := restResult
          exact ⟨resultExpected, lastAllowed, course.trans nextLater lastLater⟩

/-- What is met from a state on is met from every later one on. -/
theorem after {program : EStateM Failure σ α} {next : σ}
    (met : course.MetFrom origin values program)
    (later : course.later origin next) :
    course.MetFrom next values program := by
  intro state allowed reached
  exact met state allowed (course.trans later reached)

theorem weaken {program : EStateM Failure σ α} {others : σ → α → Prop}
    (met : course.MetFrom origin values program)
    (expected : ∀ state value, values state value → others state value) :
    course.MetFrom origin others program := by
  intro state allowed after
  have result := met state allowed after
  cases ended : program state with
  | error failure next =>
      rw [ended] at result
      exact result
  | ok value next =>
      rw [ended] at result
      exact ⟨expected next value result.1, result.2⟩

end MetFrom

end Course

end RdfTemplates
