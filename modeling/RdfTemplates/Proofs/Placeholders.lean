import RdfTemplates.BlankNode

/-!
# Placeholders of a repetition

A placeholder keeps the label that it was given when it was first met.  So a
term that has been localized once is localized in the same way ever after, and
takes no more labels.  A term without blank nodes takes none at all.
-/

namespace RdfTemplates.Placeholders

/-- The placeholders that have been met have the same labels later. -/
def KeptIn (placeholders later : Placeholders) : Prop :=
  ∀ placeholder label, placeholders.labels.lookup placeholder = some label →
    later.labels.lookup placeholder = some label

theorem KeptIn.refl (placeholders : Placeholders) :
    placeholders.KeptIn placeholders :=
  fun _ _ found => found

theorem KeptIn.trans {first second third : Placeholders}
    (kept : first.KeptIn second) (keptAfter : second.KeptIn third) :
    first.KeptIn third :=
  fun placeholder label found =>
    keptAfter placeholder label (kept placeholder label found)

/-! ## One placeholder -/

theorem labelFor_of_lookup {placeholders : Placeholders}
    {placeholder label : String}
    (found : placeholders.labels.lookup placeholder = some label)
    (source : LabelSource) :
    placeholders.labelFor source placeholder =
      (label, placeholders, source) := by
  simp only [labelFor, found]

theorem lookup_labelFor (placeholders : Placeholders) (source : LabelSource)
    (placeholder : String) :
    (placeholders.labelFor source placeholder).2.1.labels.lookup placeholder =
      some (placeholders.labelFor source placeholder).1 := by
  cases found : placeholders.labels.lookup placeholder with
  | some label => rw [labelFor_of_lookup found, found]
  | none => simp [labelFor, found]

theorem keptIn_labelFor (placeholders : Placeholders) (source : LabelSource)
    (placeholder : String) :
    placeholders.KeptIn (placeholders.labelFor source placeholder).2.1 := by
  cases unmet : placeholders.labels.lookup placeholder with
  | some label =>
      rw [labelFor_of_lookup unmet]
      exact .refl placeholders
  | none =>
      intro other label found
      have different : (other == placeholder) = false := by
        apply beq_false_of_ne
        intro same
        rw [same, unmet] at found
        cases found
      simpa [labelFor, unmet, List.lookup_cons, different] using found

/-! ## Terms -/

mutual

theorem keptIn_localize (placeholders : Placeholders) (source : LabelSource) :
    ∀ term, placeholders.KeptIn (placeholders.localize source term).2.1
  | .blank placeholder => keptIn_labelFor placeholders source placeholder
  | .list items => keptIn_localizeList placeholders source items
  | .iri _ | .literal _ | .var _ | .none => .refl placeholders

theorem keptIn_localizeList (placeholders : Placeholders)
    (source : LabelSource) :
    ∀ items, placeholders.KeptIn (placeholders.localizeList source items).2.1
  | [] => .refl placeholders
  | item :: items =>
      (keptIn_localize placeholders source item).trans
        (keptIn_localizeList _ _ items)

end

mutual

/-- Once a term has been localized, all its placeholders have been met. -/
theorem localize_again {placeholders later : Placeholders}
    {source : LabelSource} (laterSource : LabelSource) :
    ∀ term, (placeholders.localize source term).2.1.KeptIn later →
      later.localize laterSource term =
        ((placeholders.localize source term).1, later, laterSource)
  | .blank placeholder, kept => by
      have found := kept _ _ (lookup_labelFor placeholders source placeholder)
      simp only [localize, labelFor_of_lookup found]
  | .list items, kept => by
      simp only [localize, localizeList_again laterSource items kept]
  | .iri _, _ | .literal _, _ | .var _, _ | .none, _ => rfl

theorem localizeList_again {placeholders later : Placeholders}
    {source : LabelSource} (laterSource : LabelSource) :
    ∀ items, (placeholders.localizeList source items).2.1.KeptIn later →
      later.localizeList laterSource items =
        ((placeholders.localizeList source items).1, later, laterSource)
  | [], _ => rfl
  | item :: items, kept => by
      have itemKept :=
        (keptIn_localizeList (placeholders.localize source item).2.1
          (placeholders.localize source item).2.2 items).trans kept
      simp only [localizeList, localize_again laterSource item itemKept,
        localizeList_again laterSource items kept]

end

mutual

theorem localize_of_hasBlank_eq_false (placeholders : Placeholders)
    (source : LabelSource) :
    ∀ term : Term, term.hasBlank = false →
      placeholders.localize source term = (term, placeholders, source)
  | .list items, plain => by
      simp only [localize,
        localizeList_of_anyHasBlank_eq_false placeholders source items plain]
  | .iri _, _ | .literal _, _ | .var _, _ | .none, _ => rfl

theorem localizeList_of_anyHasBlank_eq_false (placeholders : Placeholders)
    (source : LabelSource) :
    ∀ items : List Term, Term.anyHasBlank items = false →
      placeholders.localizeList source items = (items, placeholders, source)
  | [], _ => rfl
  | item :: items, plain => by
      simp only [Term.anyHasBlank, Bool.or_eq_false_iff] at plain
      obtain ⟨itemPlain, itemsPlain⟩ := plain
      simp only [localizeList,
        localize_of_hasBlank_eq_false placeholders source item itemPlain,
        localizeList_of_anyHasBlank_eq_false placeholders source items
          itemsPlain]

end

end RdfTemplates.Placeholders
