import Mathlib.Data.List.Forall2
import RdfTemplates.Context
import RdfTemplates.ParameterType
import RdfTemplates.Triple

/-!
# Terms up to labels

Two terms match if they differ in the labels of blank nodes only, and there as a
given relation on labels allows.  Nothing but equality tells matching terms
apart: they have the same variables, belong to the same types, and stay matching
when placeholders and variables are replaced in a matching way.
-/

namespace RdfTemplates

/-- The terms agree but for their labels, which are related. -/
inductive Term.Matches (labels : String → String → Prop) :
    Term → Term → Prop where
  | iri (name : String) : Matches labels (.iri name) (.iri name)
  | literal (value : Literal) : Matches labels (.literal value) (.literal value)
  | blank {left right : String} : labels left right →
      Matches labels (.blank left) (.blank right)
  | var (name : String) : Matches labels (.var name) (.var name)
  | list {lefts rights : List Term} :
      List.Forall₂ (Matches labels) lefts rights →
        Matches labels (.list lefts) (.list rights)
  | none : Matches labels .none .none

variable {labels : String → String → Prop}

namespace Term

theorem Matches.isNone_eq {left right : Term}
    (matching : left.Matches labels right) : left.isNone = right.isNone := by
  cases matching <;> rfl

mutual

theorem Matches.hasBlank_eq : ∀ {left right : Term}, left.Matches labels right →
    left.hasBlank = right.hasBlank
  | .iri _, _, .iri _ | .literal _, _, .literal _ | .var _, _, .var _
  | .none, _, .none => rfl
  | .blank _, _, .blank _ => rfl
  | .list _, _, .list items => anyHasBlank_eq items

theorem anyHasBlank_eq :
    ∀ {lefts rights : List Term}, List.Forall₂ (Matches labels) lefts rights →
      anyHasBlank lefts = anyHasBlank rights
  | [], _, .nil => rfl
  | _ :: _, _, .cons head tail => by
      simp only [anyHasBlank]
      rw [head.hasBlank_eq, anyHasBlank_eq tail]

end

mutual

theorem Matches.firstVariable?_eq :
    ∀ {left right : Term}, left.Matches labels right →
      left.firstVariable? = right.firstVariable?
  | .iri _, _, .iri _ | .literal _, _, .literal _ | .var _, _, .var _
  | .none, _, .none => rfl
  | .blank _, _, .blank _ => rfl
  | .list _, _, .list items => firstVariableIn?_eq items

theorem firstVariableIn?_eq : ∀ {lefts rights : List Term},
    List.Forall₂ (Matches labels) lefts rights →
      firstVariableIn? lefts = firstVariableIn? rights
  | [], _, .nil => rfl
  | _ :: _, _, .cons head tail => by
      simp only [firstVariableIn?]
      rw [head.firstVariable?_eq, firstVariableIn?_eq tail]

end

theorem all_accepts_eq {type : ParameterType}
    (each : ∀ left right : Term, left.Matches labels right →
      type.accepts left = type.accepts right) {lefts rights : List Term}
    (matching : List.Forall₂ (Matches labels) lefts rights) :
    lefts.all type.accepts = rights.all type.accepts := by
  induction matching with
  | nil => rfl
  | cons head tail induction =>
      simp only [List.all_cons]
      rw [each _ _ head, induction]

theorem Matches.accepts_eq (type : ParameterType) {left right : Term}
    (matching : left.Matches labels right) :
    type.accepts left = type.accepts right := by
  induction type generalizing left right with
  | iri => cases matching <;> rfl
  | literal datatype => cases datatype <;> cases matching <;> rfl
  | blank => cases matching <;> rfl
  | any => cases matching <;> rfl
  | list type induction =>
      cases matching with
      | list items => exact all_accepts_eq (fun _ _ => induction) items
      | _ => rfl
  | nonEmptyList type induction =>
      cases matching with
      | list items =>
          have all := all_accepts_eq (fun _ _ => induction) items
          cases items with
          | nil => rfl
          | cons head tail => simpa [ParameterType.accepts] using all
      | _ => rfl

mutual

/-- Matching is equality where the labels are equal. -/
theorem Matches.eq_of_eq :
    ∀ {left right : Term}, left.Matches Eq right → left = right
  | _, _, .iri _ | _, _, .literal _ | _, _, .var _ | _, _, .none => rfl
  | _, _, .blank rfl => rfl
  | .list _, _, .list items => congrArg Term.list (all_eq_of_eq items)

theorem all_eq_of_eq : ∀ {lefts rights : List Term},
    List.Forall₂ (Matches Eq) lefts rights → lefts = rights
  | [], _, .nil => rfl
  | _ :: _, _, .cons head tail => by rw [head.eq_of_eq, all_eq_of_eq tail]

end

mutual

/-- The labels of the blank nodes of a term, depth first. -/
def blankNames : Term → List String
  | .blank label => [label]
  | .list items => listBlankNames items
  | .iri _ | .literal _ | .var _ | .none => []

def listBlankNames : List Term → List String
  | [] => []
  | item :: items => item.blankNames ++ listBlankNames items

end

mutual

/-- A term matches itself if each of its labels is related to itself. -/
theorem matches_self :
    ∀ {term : Term}, (∀ label ∈ term.blankNames, labels label label) →
      term.Matches labels term
  | .iri _, _ => .iri _
  | .literal _, _ => .literal _
  | .blank label, related => .blank (related label (by simp [blankNames]))
  | .var _, _ => .var _
  | .list items, related => by
      have each : List.Forall₂ (Matches labels) items items :=
        all_match_self related
      exact .list each
  | .none, _ => .none

theorem all_match_self : ∀ {items : List Term},
    (∀ label ∈ listBlankNames items, labels label label) →
      List.Forall₂ (Matches labels) items items
  | [], _ => .nil
  | item :: items, related => by
      refine .cons (matches_self ?_) (all_match_self ?_)
      · intro label member
        exact related label (by simp [listBlankNames, member])
      · intro label member
        exact related label (by simp [listBlankNames, member])

end

end Term

/-! ## Placeholders and variables -/

namespace Placeholders

/-- The same placeholders have been met, and their labels are related. -/
def Matches (labels : String → String → Prop) (left right : Placeholders) :
    Prop :=
  List.Forall₂ (fun leftEntry rightEntry =>
    leftEntry.1 = rightEntry.1 ∧ labels leftEntry.2 rightEntry.2)
    left.labels right.labels

theorem Matches.lookup {left right : Placeholders}
    (matching : left.Matches labels right) (placeholder : String) :
    Option.Rel labels (left.labels.lookup placeholder)
      (right.labels.lookup placeholder) := by
  obtain ⟨leftEntries⟩ := left
  obtain ⟨rightEntries⟩ := right
  simp only [Matches] at matching
  induction matching with
  | nil => exact .none
  | @cons leftEntry rightEntry leftRest rightRest head tail induction =>
      obtain ⟨leftName, leftLabel⟩ := leftEntry
      obtain ⟨rightName, rightLabel⟩ := rightEntry
      obtain ⟨rfl, related⟩ := head
      simp only [List.lookup_cons]
      cases placeholder == leftName with
      | true => exact .some related
      | false => exact induction

end Placeholders

/-- Two supplies of fresh labels run in parallel: whenever their counts
correspond, the labels made next are related and the counts after them
correspond again. -/
structure LabelSupply where
  leftStem : String
  rightStem : String
  labels : String → String → Prop
  counts : Nat → Nat → Prop
  fresh {left right : Nat} : counts left right →
    labels (LabelSource.label leftStem left) (LabelSource.label rightStem right)
  next {left right : Nat} : counts left right → counts (left + 1) (right + 1)

namespace LabelSupply

variable (supply : LabelSupply)

/-- Two sources that go on making labels in parallel. -/
def Sources (left right : LabelSource) : Prop :=
  left.stem = supply.leftStem ∧ right.stem = supply.rightStem ∧
    supply.counts left.allocated right.allocated

/-- What localization leaves on both sides. -/
def Localized {α : Type} (values : α → α → Prop)
    (left right : α × Placeholders × LabelSource) : Prop :=
  values left.1 right.1 ∧ left.2.1.Matches supply.labels right.2.1 ∧
    supply.Sources left.2.2 right.2.2

variable {supply} {left right : Placeholders}
  {leftSource rightSource : LabelSource}

theorem labelFor (placeholders : left.Matches supply.labels right)
    (sources : supply.Sources leftSource rightSource) (placeholder : String) :
    supply.Localized supply.labels (left.labelFor leftSource placeholder)
      (right.labelFor rightSource placeholder) := by
  obtain ⟨leftStem, rightStem, counts⟩ := sources
  have found := placeholders.lookup placeholder
  unfold Placeholders.labelFor
  cases leftFound : left.labels.lookup placeholder with
  | some leftLabel =>
      cases rightFound : right.labels.lookup placeholder with
      | some rightLabel =>
          rw [leftFound, rightFound] at found
          cases found with
          | some related =>
              exact ⟨related, placeholders, leftStem, rightStem, counts⟩
      | none =>
          rw [leftFound, rightFound] at found
          cases found
  | none =>
      cases rightFound : right.labels.lookup placeholder with
      | some rightLabel =>
          rw [leftFound, rightFound] at found
          cases found
      | none =>
          have related := supply.fresh counts
          rw [← leftStem, ← rightStem] at related
          exact ⟨related, .cons ⟨rfl, related⟩ placeholders, leftStem,
            rightStem, supply.next counts⟩

mutual

theorem localize :
    ∀ (term : Term) {left right : Placeholders}
      {leftSource rightSource : LabelSource}, left.Matches supply.labels right →
        supply.Sources leftSource rightSource →
        supply.Localized (Term.Matches supply.labels)
          (left.localize leftSource term) (right.localize rightSource term)
  | .blank placeholder, _, _, _, _, placeholders, sources => by
      obtain ⟨related, rest⟩ := supply.labelFor placeholders sources placeholder
      exact ⟨.blank related, rest⟩
  | .list items, _, _, _, _, placeholders, sources => by
      obtain ⟨related, rest⟩ := localizeList items placeholders sources
      exact ⟨.list related, rest⟩
  | .iri name, _, _, _, _, placeholders, sources =>
      ⟨.iri name, placeholders, sources⟩
  | .literal value, _, _, _, _, placeholders, sources =>
      ⟨.literal value, placeholders, sources⟩
  | .var name, _, _, _, _, placeholders, sources =>
      ⟨.var name, placeholders, sources⟩
  | .none, _, _, _, _, placeholders, sources => ⟨.none, placeholders, sources⟩

theorem localizeList :
    ∀ (items : List Term) {left right : Placeholders}
      {leftSource rightSource : LabelSource}, left.Matches supply.labels right →
        supply.Sources leftSource rightSource →
        supply.Localized (List.Forall₂ (Term.Matches supply.labels))
          (left.localizeList leftSource items)
          (right.localizeList rightSource items)
  | [], _, _, _, _, placeholders, sources => ⟨.nil, placeholders, sources⟩
  | item :: items, _, _, _, _, placeholders, sources => by
      obtain ⟨head, headPlaceholders, headSources⟩ :=
        localize item placeholders sources
      obtain ⟨tail, rest⟩ := localizeList items headPlaceholders headSources
      exact ⟨.cons head tail, rest⟩

end

end LabelSupply

/-- Two checks succeed with related values or fail alike. -/
inductive ChecksMatch {ε δ α β : Type} (errors : ε → δ → Prop)
    (values : α → β → Prop) : Except ε α → Except δ β → Prop where
  | ok {left : α} {right : β} : values left right →
      ChecksMatch errors values (.ok left) (.ok right)
  | error {left : ε} {right : δ} : errors left right →
      ChecksMatch errors values (.error left) (.error right)

namespace Term

mutual

theorem Matches.substitute {leftValues rightValues : String → Option Term}
    (values : ∀ name,
      Option.Rel (Matches labels) (leftValues name) (rightValues name)) :
    ∀ {left right : Term}, left.Matches labels right →
      ChecksMatch Eq (Matches labels) (left.substitute leftValues)
        (right.substitute rightValues)
  | .iri _, _, .iri name => .ok (.iri name)
  | .literal _, _, .literal value => .ok (.literal value)
  | .blank _, _, .blank related => .ok (.blank related)
  | .none, _, .none => .ok .none
  | .var _, _, .var name => by
      have value := values name
      simp only [Term.substitute]
      generalize leftValues name = leftValue at value ⊢
      generalize rightValues name = rightValue at value ⊢
      cases value with
      | some related => exact .ok related
      | none => exact .error rfl
  | .list _, _, .list items => by
      have rest := substituteList_related values items
      simp only [Term.substitute]
      generalize substituteList leftValues _ = leftItems at rest ⊢
      generalize substituteList rightValues _ = rightItems at rest ⊢
      cases rest with
      | ok related => exact .ok (.list related)
      | error same => exact .error same

theorem substituteList_related {leftValues rightValues : String → Option Term}
    (values : ∀ name,
      Option.Rel (Matches labels) (leftValues name) (rightValues name)) :
    ∀ {lefts rights : List Term}, List.Forall₂ (Matches labels) lefts rights →
      ChecksMatch Eq (List.Forall₂ (Matches labels))
        (substituteList leftValues lefts) (substituteList rightValues rights)
  | [], _, .nil => .ok .nil
  | _ :: _, _, .cons head tail => by
      have first := head.substitute values
      have rest := substituteList_related values tail
      simp only [substituteList]
      generalize Term.substitute leftValues _ = leftItem at first ⊢
      generalize Term.substitute rightValues _ = rightItem at first ⊢
      generalize substituteList leftValues _ = leftItems at rest ⊢
      generalize substituteList rightValues _ = rightItems at rest ⊢
      cases first with
      | error same => exact .error same
      | ok related =>
          cases rest with
          | ok others => exact .ok (.cons related others)
          | error same => exact .error same

end

end Term

end RdfTemplates
