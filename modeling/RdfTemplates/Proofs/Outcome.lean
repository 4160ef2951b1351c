import Mathlib.Control.Monad.Basic
import RdfTemplates.Expansion.Engine
import RdfTemplates.Proofs.Checks
import RdfTemplates.Proofs.Library.Construction

/-!
# Outcomes of roots

What can be seen of the expansion of one root from the outside.
-/

namespace RdfTemplates

/-- The triples of a root or why there are none, and how many labels were used
by then. -/
structure Outcome where
  result : Except Failure (List Triple)
  allocated : Nat
  deriving DecidableEq

/-- The outcome of a root in a given context. -/
def Expansion.outcome (library : Library) (context : Context)
    (root : Instance) : Outcome :=
  match expandRoot library root { context } with
  | .ok triples state => ⟨.ok triples, state.context.labels.allocated⟩
  | .error failure state => ⟨.error failure, state.context.labels.allocated⟩

theorem Expansion.exists_error_of_outcome {library : Library}
    {context : Context} {root : Instance} {failure : Failure}
    (failed : (outcome library context root).result = .error failure) :
    ∃ last, expandRoot library root { context } = .error failure last := by
  unfold outcome at failed
  split at failed
  · cases failed
  · rename_i ended
    cases failed
    exact ⟨_, ended⟩

/-- A root is refused for its own sake, or it collects the triples of one
instance. -/
theorem Expansion.expandRoot_cases (library : Library) (root : Instance) :
    (∃ fault, fault.kind = .definition ∧ expandRoot library root = fail fault) ∨
      ∃ name, expandRoot library root =
        collecting (expandInstance library { root with template := name }) := by
  cases resolved : library.resolveRoot root.template with
  | error fault =>
      obtain ⟨full, rfl⟩ := Library.resolveRoot_eq_error resolved
      exact Or.inl
        ⟨.unknownTemplate full, rfl, by rw [expandRoot, resolved]; rfl⟩
  | ok name =>
      cases isOpen : Term.firstVariableIn? root.arguments with
      | some variableName =>
          exact Or.inl ⟨.unboundVariable variableName, rfl,
            by rw [expandRoot, resolved, isOpen]; rfl⟩
      | none => exact Or.inr ⟨name, by rw [expandRoot, resolved, isOpen]; rfl⟩

end RdfTemplates
