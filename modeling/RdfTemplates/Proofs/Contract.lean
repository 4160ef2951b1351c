import RdfTemplates.Expansion

/-!
# Contracts of programs

What is asked of one program that may fail.  Started in a state that its
contract allows, it succeeds with a value of the expected kind in such a state
again, or it ends in a failure that the contract allows.  The rules follow the
shape of a program.
-/

namespace RdfTemplates

/-- What a program has to keep to. -/
structure Contract (σ : Type) where
  /-- The states in which a program starts, and ends if it succeeds. -/
  states : σ → Prop
  /-- The failures of a program, with the states they leave behind. -/
  failures : Failure → σ → Prop

namespace Contract

variable {σ α β : Type}

/-- A result that keeps to the contract. -/
def Results (contract : Contract σ) (values : α → Prop) :
    EStateM.Result Failure σ α → Prop
  | .ok value state => values value ∧ contract.states state
  | .error failure state => contract.failures failure state

/-- The program keeps to the contract, and what it returns is of the given
kind. -/
def MetBy (contract : Contract σ) (values : α → Prop)
    (program : EStateM Failure σ α) : Prop :=
  ∀ state, contract.states state → contract.Results values (program state)

namespace MetBy

variable {contract : Contract σ} {values : α → Prop} {results : β → Prop}

theorem pure {value : α} (expected : values value) :
    contract.MetBy values (Pure.pure value) :=
  fun _ allowed => ⟨expected, allowed⟩

theorem bind {program : EStateM Failure σ α} {rest : α → EStateM Failure σ β}
    (first : contract.MetBy values program)
    (continues : ∀ value, values value → contract.MetBy results (rest value)) :
    contract.MetBy results (program >>= rest) := by
  intro state allowed
  have firstResult := first state allowed
  show contract.Results results (EStateM.bind program rest state)
  unfold EStateM.bind
  cases ended : program state with
  | ok value next =>
      rw [ended] at firstResult
      exact continues value firstResult.1 next firstResult.2
  | error failure next =>
      rw [ended] at firstResult
      exact firstResult

theorem weaken {program : EStateM Failure σ α} {others : α → Prop}
    (met : contract.MetBy values program)
    (expected : ∀ value, values value → others value) :
    contract.MetBy others program := by
  intro state allowed
  have result := met state allowed
  cases ended : program state with
  | ok value next =>
      rw [ended] at result
      exact ⟨expected value result.1, result.2⟩
  | error failure next =>
      rw [ended] at result
      exact result

theorem excuse {states : σ → Prop} {failures others : Failure → σ → Prop}
    {program : EStateM Failure σ α}
    (met : Contract.MetBy ⟨states, failures⟩ values program)
    (allowed : ∀ failure state, failures failure state → others failure state) :
    Contract.MetBy ⟨states, others⟩ values program := by
  intro state start
  have result := met state start
  cases ended : program state with
  | ok value next =>
      rw [ended] at result
      exact result
  | error failure next =>
      rw [ended] at result
      exact allowed failure next result

end MetBy

/-! ## Values only -/

/-- The contract that every program keeps to: it tells nothing but what is
returned. -/
def ofValues (σ : Type) : Contract σ where
  states _ := True
  failures _ _ := True

theorem metBy_ofValues (program : EStateM Failure σ α) :
    (ofValues σ).MetBy (fun _ => True) program := by
  intro state _
  cases ended : program state with
  | ok value next => exact ⟨trivial, trivial⟩
  | error failure next => exact trivial

/-- How a program goes on matters only for the values that are returned
before. -/
theorem MetBy.bind_congr {values : α → Prop} {program : EStateM Failure σ α}
    {first second : α → EStateM Failure σ β}
    (met : (ofValues σ).MetBy values program)
    (same : ∀ value, values value → first value = second value) :
    program >>= first = program >>= second := by
  funext state
  have result := met state trivial
  show EStateM.bind program first state = EStateM.bind program second state
  simp only [EStateM.bind]
  cases ended : program state with
  | ok value next =>
      rw [ended] at result
      simp only [same value result.1]
  | error failure next => rfl

end Contract

end RdfTemplates
