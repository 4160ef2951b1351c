import RdfTemplates.Proofs.Contract
import RdfTemplates.Proofs.Direct.Semantics
import RdfTemplates.Proofs.Placeholders

/-!
# Evaluation of arguments

Within one repetition a term has the same value whenever it is evaluated, and
only the first evaluation takes labels.  A term without blank nodes takes none
even then, so it can be evaluated before or after anything else.
-/

namespace RdfTemplates.Direct

open Contract

variable {stem : String} {calls : List Instance} {values : String → Option Term}

/-! ## Terms -/

/-- A term that has been evaluated is evaluated to the same value ever after. -/
theorem bodyTerm_settles (placeholders : Placeholders) (term : Term) :
    (ofValues Trail).MetBy
      (fun result => placeholders.KeptIn result.2 ∧
        ∀ later, result.2.KeptIn later →
          bodyTerm stem calls values later term = pure (result.1, later))
      (bodyTerm stem calls values placeholders term) := by
  intro trail _
  have kept := placeholders.keptIn_localize ⟨stem, trail.allocated⟩ term
  simp only [bodyTerm]
  split
  · rename_i value substituted
    refine ⟨⟨kept, ?_⟩, trivial⟩
    intro later keptLater
    funext laterTrail
    simp only [bodyTerm, Placeholders.localize_again _ term keptLater,
      substituted]
    rfl
  · trivial

theorem bodyTerm_of_hasBlank_eq_false {term value : Term}
    (plain : term.hasBlank = false)
    (substituted : term.substitute values = .ok value)
    (placeholders : Placeholders) :
    bodyTerm stem calls values placeholders term =
      pure (value, placeholders) := by
  funext trail
  simp only [bodyTerm,
    Placeholders.localize_of_hasBlank_eq_false placeholders _ term plain,
    substituted]
  rfl

/-! ## Arguments -/

variable {expand : Instance → Run Unit}

mutual

theorem argumentValue_keeps (placeholders : Placeholders) :
    ∀ argument : Argument,
      (ofValues Trail).MetBy (fun result => placeholders.KeptIn result.2)
        (argumentValue stem calls expand values placeholders argument)
  | .term term => by
      simp only [argumentValue]
      exact (bodyTerm_settles placeholders term).weaken
        fun _ settled => settled.1
  | .nested template arguments => by
      simp only [argumentValue]
      apply (argumentValues_keeps placeholders arguments).bind
      intro evaluated kept
      obtain ⟨terms, later⟩ := evaluated
      apply (metBy_ofValues _).bind
      intro _ _
      exact .pure kept

theorem argumentValues_keeps (placeholders : Placeholders) :
    ∀ arguments : List Argument,
      (ofValues Trail).MetBy (fun result => placeholders.KeptIn result.2)
        (argumentValues stem calls expand values placeholders arguments)
  | [] => by
      simp only [argumentValues]
      exact .pure (.refl placeholders)
  | argument :: arguments => by
      simp only [argumentValues]
      apply (argumentValue_keeps placeholders argument).bind
      intro first kept
      obtain ⟨term, next⟩ := first
      apply (argumentValues_keeps next arguments).bind
      intro others keptAfter
      obtain ⟨terms, later⟩ := others
      exact .pure (kept.trans keptAfter)

end

/-- Terms without blank nodes at the front of arguments have their values
without a step. -/
theorem argumentValues_terms_append {terms known : List Term}
    (plain : Term.anyHasBlank terms = false)
    (substituted : Term.substituteList values terms = .ok known)
    (placeholders : Placeholders) (arguments : List Argument) :
    argumentValues stem calls expand values placeholders
      (terms.map .term ++ arguments) = (do
      let (rest, placeholders) ←
        argumentValues stem calls expand values placeholders arguments
      pure (known ++ rest, placeholders)) := by
  induction terms generalizing known with
  | nil =>
      cases substituted
      simp
  | cons term terms induction =>
      simp only [Term.anyHasBlank, Bool.or_eq_false_iff] at plain
      simp only [Term.substituteList] at substituted
      split at substituted
      · cases substituted
      · rename_i value termSubstituted
        split at substituted
        · rename_i others othersSubstituted
          cases substituted
          have head : bodyTerm stem calls values placeholders term =
              pure (value, placeholders) :=
            bodyTerm_of_hasBlank_eq_false plain.1 termSubstituted placeholders
          simp only [List.map_cons, List.cons_append, argumentValues,
            argumentValue, head, pure_bind, induction plain.2 othersSubstituted,
            bind_assoc]
        · cases substituted

end RdfTemplates.Direct
