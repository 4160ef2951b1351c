import RdfTemplates.Proofs.Contract
import RdfTemplates.Proofs.Direct.Semantics

/-!
# Failures of emission

A triple is refused for one reason only: a term that is one of its positions, or
stands inside the list in its object position, cannot stand there.
-/

namespace RdfTemplates.Direct

/-- The contract of runs that fail only where a term of the given kind cannot
stand in its position. -/
def refusingTerms (calls : List Instance) (kind : Term → Prop) :
    Contract Trail where
  states _ := True
  failures failure _ := ∃ position term reason,
    failure = { fault := .invalidTriple position term reason, calls } ∧
      kind term

section Emission

variable {stem : String} {calls : List Instance} {kind : Term → Prop}

theorem refusingTerms_fail {α : Type} {values : α → Prop}
    {position reason : String} {term : Term} (expected : kind term) :
    (refusingTerms calls kind).MetBy values
      (fail calls (.invalidTriple position term reason)) :=
  fun _ _ => ⟨position, term, reason, rfl, expected⟩

theorem refusingTerms_emit (triple : Triple) :
    (refusingTerms calls kind).MetBy (fun _ => True) (emit triple) :=
  fun _ _ => ⟨trivial, trivial⟩

theorem refusingTerms_freshBlanks (count : Nat) :
    (refusingTerms calls kind).MetBy (fun _ => True)
      (freshBlanks stem count) := by
  have freshBlank :
      (refusingTerms calls kind).MetBy (fun _ => True) (freshBlank stem) :=
    fun _ _ => ⟨trivial, trivial⟩
  induction count with
  | zero => exact .pure trivial
  | succ count induction =>
      apply freshBlank.bind
      intro node _
      apply induction.bind
      intro nodes _
      exact .pure trivial

mutual

theorem refusingTerms_itemValue
    (within : ∀ {items : List Term}, kind (.list items) →
      ∀ item ∈ items, kind item) :
    ∀ item, kind item →
      (refusingTerms calls kind).MetBy (fun _ => True)
        (itemValue stem calls item)
  | .list items, expected => by
      simp only [itemValue]
      apply (refusingTerms_freshBlanks items.length).bind
      intro cells _
      apply (refusingTerms_writeCells within items cells (within expected)).bind
      intro _ _
      exact .pure trivial
  | .none, expected => refusingTerms_fail expected
  | .var _, expected => refusingTerms_fail expected
  | .iri _, _ => .pure trivial
  | .literal _, _ => .pure trivial
  | .blank _, _ => .pure trivial

theorem refusingTerms_writeCells
    (within : ∀ {items : List Term}, kind (.list items) →
      ∀ item ∈ items, kind item) :
    ∀ items cells : List Term, (∀ item ∈ items, kind item) →
      (refusingTerms calls kind).MetBy (fun _ => True)
        (writeCells stem calls items cells)
  | [], _, _ => by
      simp only [writeCells]
      exact .pure trivial
  | _ :: _, [], _ => by
      simp only [writeCells]
      exact .pure trivial
  | item :: items, cell :: cells, expected => by
      obtain ⟨itemExpected, restExpected⟩ := List.forall_mem_cons.mp expected
      simp only [writeCells]
      apply (refusingTerms_itemValue within item itemExpected).bind
      intro value _
      apply (refusingTerms_emit _).bind
      intro _ _
      apply (refusingTerms_emit _).bind
      intro _ _
      exact refusingTerms_writeCells within items cells restExpected

end

theorem refusingTerms_objectValue
    (within : ∀ {items : List Term}, kind (.list items) →
      ∀ item ∈ items, kind item) {object : Term} (expected : kind object) :
    (refusingTerms calls kind).MetBy (fun _ => True)
      (objectValue stem calls object) := by
  cases object with
  | list items => exact refusingTerms_itemValue within (.list items) expected
  | var name => exact refusingTerms_fail expected
  | iri name => exact .pure trivial
  | literal value => exact .pure trivial
  | blank label => exact .pure trivial
  | none => exact .pure trivial

theorem refusingTerms_checkPosition {position : String} {term : Term}
    (expected : kind term) (objection : Option String) :
    (refusingTerms calls kind).MetBy (fun _ => True)
      (checkPosition calls position term objection) := by
  cases objection with
  | none => exact .pure trivial
  | some reason => exact refusingTerms_fail expected

/-- A triple of terms of a kind is refused because of a term of this kind. -/
theorem refusingTerms_writeTriple
    (within : ∀ {items : List Term}, kind (.list items) →
      ∀ item ∈ items, kind item)
    {subject predicate object : Term} (subjectExpected : kind subject)
    (predicateExpected : kind predicate) (objectExpected : kind object) :
    (refusingTerms calls kind).MetBy (fun _ => True)
      (writeTriple stem calls subject predicate object) := by
  unfold writeTriple
  split
  · exact .pure trivial
  · apply (refusingTerms_checkPosition subjectExpected _).bind
    intro _ _
    apply (refusingTerms_checkPosition predicateExpected _).bind
    intro _ _
    apply (refusingTerms_objectValue within objectExpected).bind
    intro value _
    exact refusingTerms_emit _

end Emission

end RdfTemplates.Direct
