import RdfTemplates.Proofs.Labels.Terms
import RdfTemplates.Proofs.Restoration.Steps

/-!
# Origins of labels

A label is accounted for if it was given from outside or if it has been handed
out since some count.  Localization hands out the labels of all placeholders,
and substitution puts in values as they are, so that the value of a body term
has no label of the body itself.
-/

namespace RdfTemplates

namespace LabelSource

/-- The source has gone on to hand out labels. -/
structure GoesTo (source later : LabelSource) : Prop where
  stem : later.stem = source.stem
  allocated : source.allocated ≤ later.allocated

/-- A label was given, or has been handed out since the count was `first`. -/
def Accounts (source : LabelSource) (given : String → Prop) (first : Nat)
    (text : String) : Prop :=
  given text ∨
    ∃ count, first ≤ count ∧ count < source.allocated ∧
      text = label source.stem count

variable {source next : LabelSource} {given : String → Prop} {first : Nat}
  {text : String}

theorem Accounts.later (accounts : source.Accounts given first text)
    (goesTo : source.GoesTo next) : next.Accounts given first text := by
  rcases accounts with isGiven | ⟨count, since, before, rfl⟩
  · exact Or.inl isGiven
  · rw [← goesTo.stem]
    exact Or.inr ⟨count, since, Nat.lt_of_lt_of_le before goesTo.allocated, rfl⟩

theorem accounts_fresh (enough : first ≤ source.allocated) :
    source.fresh.2.Accounts given first source.fresh.1 :=
  Or.inr ⟨source.allocated, enough, Nat.lt_succ_self _, rfl⟩

end LabelSource

/-- All labels of a term are allowed. -/
def Term.LabelsIn (allowed : String → Prop) (term : Term) : Prop :=
  ∀ label ∈ term.blankNames, allowed label

/-- All labels that stand for placeholders are allowed. -/
def Placeholders.LabelsIn (allowed : String → Prop)
    (placeholders : Placeholders) : Prop :=
  ∀ entry ∈ placeholders.labels, allowed entry.2

namespace Term

theorem mem_listBlankNames {label : String} {items : List Term} :
    label ∈ listBlankNames items ↔ ∃ item ∈ items, label ∈ item.blankNames := by
  induction items with
  | nil => simp [listBlankNames]
  | cons item items induction => simp [listBlankNames, induction]

theorem labelsIn_list {allowed : String → Prop} {items : List Term} :
    (Term.list items).LabelsIn allowed ↔
      ∀ item ∈ items, item.LabelsIn allowed := by
  simp only [LabelsIn, blankNames, mem_listBlankNames]
  constructor
  · intro all item member label occurs
    exact all label ⟨item, member, occurs⟩
  · intro each label ⟨item, member, occurs⟩
    exact each item member label occurs

theorem LabelsIn.imp {allowed others : String → Prop} {term : Term}
    (within : term.LabelsIn allowed)
    (more : ∀ label, allowed label → others label) : term.LabelsIn others :=
  fun label occurs => more label (within label occurs)

section Substitution

variable {allowed : String → Prop} {lookup : String → Option Term}

mutual

/-- Substitution adds no labels but those of the values. -/
theorem labelsIn_substitute
    (values : ∀ name value, lookup name = some value → value.LabelsIn allowed) :
    ∀ {term value : Term}, term.LabelsIn allowed →
      term.substitute lookup = .ok value → value.LabelsIn allowed
  | .var name, value, _, done => by
      simp only [substitute] at done
      split at done
      · rename_i found
        cases done
        exact values name value found
      · cases done
  | .list items, value, within, done => by
      simp only [substitute] at done
      split at done
      · rename_i terms itemsDone
        cases done
        exact labelsIn_list.mpr
          (labelsIn_substituteList values (labelsIn_list.mp within) itemsDone)
      · cases done
  | .iri _, _, within, .refl _ | .literal _, _, within, .refl _ | .blank _, _,
      within, .refl _
  | .none, _, within, .refl _ => within

theorem labelsIn_substituteList
    (values : ∀ name value, lookup name = some value → value.LabelsIn allowed) :
    ∀ {items terms : List Term}, (∀ item ∈ items, item.LabelsIn allowed) →
      substituteList lookup items = .ok terms →
      ∀ term ∈ terms, term.LabelsIn allowed
  | [], _, _, .refl _ => by
      intro term member
      cases member
  | item :: items, terms, within, done => by
      obtain ⟨itemWithin, itemsWithin⟩ := List.forall_mem_cons.mp within
      simp only [substituteList] at done
      split at done
      · cases done
      · rename_i head headDone
        split at done
        · rename_i tail tailDone
          cases done
          have headWithin := labelsIn_substitute values itemWithin headDone
          have tailWithin := labelsIn_substituteList values itemsWithin tailDone
          exact List.forall_mem_cons.mpr ⟨headWithin, tailWithin⟩
        · cases done

end

end Substitution

end Term

namespace Placeholders

open LabelSource (Accounts GoesTo)

theorem LabelsIn.imp {allowed others : String → Prop}
    {placeholders : Placeholders} (within : placeholders.LabelsIn allowed)
    (more : ∀ label, allowed label → others label) :
    placeholders.LabelsIn others :=
  fun entry member => more entry.2 (within entry member)

theorem goesTo_localize (placeholders : Placeholders) (source : LabelSource)
    (term : Term) : source.GoesTo (placeholders.localize source term).2.2 :=
  ⟨localize_stem placeholders source term,
    localize_allocated_le placeholders source term⟩

theorem goesTo_localizeList (placeholders : Placeholders) (source : LabelSource)
    (items : List Term) :
    source.GoesTo (placeholders.localizeList source items).2.2 :=
  ⟨localizeList_stem placeholders source items,
    localizeList_allocated_le placeholders source items⟩

variable {given : String → Prop} {first : Nat}

theorem accounts_labelFor {source : LabelSource}
    (enough : first ≤ source.allocated) {placeholders : Placeholders}
    (known : placeholders.LabelsIn (source.Accounts given first))
    (placeholder : String) :
    (placeholders.labelFor source placeholder).2.2.Accounts given first
      (placeholders.labelFor source placeholder).1 ∧
      (placeholders.labelFor source placeholder).2.1.LabelsIn
        ((placeholders.labelFor source placeholder).2.2.Accounts given
          first) := by
  simp only [labelFor]
  split
  · rename_i label found
    obtain ⟨before, after, entries, _⟩ := List.lookup_eq_some_iff.mp found
    refine ⟨known (placeholder, label) ?_, known⟩
    rw [entries]
    exact List.mem_append_right _ List.mem_cons_self
  · have fresh : source.fresh.2.Accounts given first source.fresh.1 :=
      LabelSource.accounts_fresh enough
    have others : ∀ entry ∈ placeholders.labels,
        source.fresh.2.Accounts given first entry.2 :=
      fun entry member => (known entry member).later ⟨rfl, Nat.le_succ _⟩
    exact ⟨fresh, List.forall_mem_cons.mpr ⟨fresh, others⟩⟩

mutual

/-- After localization all labels of the term are accounted for, and so are the
labels of the placeholders that have been met. -/
theorem accounts_localize {source : LabelSource}
    (enough : first ≤ source.allocated) {placeholders : Placeholders}
    (known : placeholders.LabelsIn (source.Accounts given first)) :
    ∀ term : Term, (placeholders.localize source term).1.LabelsIn
      ((placeholders.localize source term).2.2.Accounts given first) ∧
      (placeholders.localize source term).2.1.LabelsIn
        ((placeholders.localize source term).2.2.Accounts given first)
  | .blank placeholder => by
      obtain ⟨label, placeholdersKnown⟩ :=
        accounts_labelFor enough known placeholder
      refine ⟨?_, placeholdersKnown⟩
      intro text occurs
      cases List.mem_singleton.mp occurs
      exact label
  | .list items => by
      obtain ⟨itemsWithin, placeholdersKnown⟩ :=
        accounts_localizeList enough known items
      exact ⟨Term.labelsIn_list.mpr itemsWithin, placeholdersKnown⟩
  | .iri _ | .literal _ | .var _ | .none =>
      ⟨fun _ none => (List.not_mem_nil none).elim, known⟩

theorem accounts_localizeList {source : LabelSource}
    (enough : first ≤ source.allocated) {placeholders : Placeholders}
    (known : placeholders.LabelsIn (source.Accounts given first)) :
    ∀ items : List Term,
      (∀ item ∈ (placeholders.localizeList source items).1, item.LabelsIn
        ((placeholders.localizeList source items).2.2.Accounts given first)) ∧
        (placeholders.localizeList source items).2.1.LabelsIn
          ((placeholders.localizeList source items).2.2.Accounts given first)
  | [] => ⟨fun _ none => (List.not_mem_nil none).elim, known⟩
  | item :: items => by
      obtain ⟨itemWithin, itemKnown⟩ := accounts_localize enough known item
      have further := placeholders.goesTo_localize source item
      have stillEnough := Nat.le_trans enough further.allocated
      obtain ⟨itemsWithin, itemsKnown⟩ :=
        accounts_localizeList stillEnough itemKnown items
      have last := goesTo_localizeList (placeholders.localize source item).2.1
        (placeholders.localize source item).2.2 items
      have stillWithin := itemWithin.imp fun _ accounts => accounts.later last
      exact ⟨List.forall_mem_cons.mpr ⟨stillWithin, itemsWithin⟩, itemsKnown⟩

end

end Placeholders

end RdfTemplates
