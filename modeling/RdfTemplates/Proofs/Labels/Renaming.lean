import RdfTemplates.Proofs.Labels.Runs
import RdfTemplates.Relabelling

/-!
# Renaming fresh labels

Fresh labels are made from a stem and a count.  Changing the stem, or starting
the count later, renames the labels of an expansion and changes nothing else, as
long as no label that is given to it looks like a fresh one.
-/

namespace RdfTemplates

/-- The second of two related labels is the renaming of the first. -/
def RenamedBy (labels : String → String → Prop) (rename : String → String) :
    Prop :=
  ∀ left right, labels left right → right = rename left

namespace LabelSource

/-- The count of a label, if it is made from the stem. -/
def count? (stem text : String) : Option Nat :=
  let count := Nat.ofDigitChars 10 (text.toList.drop (stem.length + 1)) 0
  if text = label stem count then some count else none

theorem count?_label (stem : String) (count : Nat) :
    count? stem (label stem count) = some count := by
  have split : (label stem count).toList =
      (stem.toList ++ ['_']) ++ Nat.toDigits 10 count := by
    simp [label, Nat.repr]
  have width : stem.length + 1 = (stem.toList ++ ['_']).length := by
    simp [String.length_toList]
  have digits : (label stem count).toList.drop (stem.length + 1) =
      Nat.toDigits 10 count := by
    rw [split, width, List.drop_left]
  simp [count?, digits, Nat.ofDigitChars_ten_toDigits]

theorem count?_eq_some_iff {stem text : String} {count : Nat} :
    count? stem text = some count ↔ text = label stem count := by
  constructor
  · intro found
    simp only [count?] at found
    split at found
    · cases found
      assumption
    · cases found
  · rintro rfl
    exact count?_label stem count

theorem label_injective {stem : String} {left right : Nat}
    (same : label stem left = label stem right) : left = right := by
  have counts := congrArg (count? stem) same
  rw [count?_label, count?_label] at counts
  exact Option.some.inj counts

/-- The label with its stem replaced and its count moved on, if it is made from
the stem; any other label as it is. -/
def rename (stem target : String) (shift : Nat) (text : String) : String :=
  match count? stem text with
  | some count => label target (count + shift)
  | none => text

/-- A fresh label corresponds to its renaming, and a label that cannot be fresh
on either side to itself. -/
def Renamed (stem target : String) (shift : Nat) (left right : String) : Prop :=
  (∃ count, left = label stem count ∧ right = label target (count + shift)) ∨
    (left = right ∧
      ∀ count, left ≠ label stem count ∧ left ≠ label target count)

theorem renamed_renamedBy (stem target : String) (shift : Nat) :
    RenamedBy (Renamed stem target shift) (rename stem target shift) := by
  intro left right renamed
  rcases renamed with ⟨count, rfl, rfl⟩ | ⟨rfl, foreign⟩
  · simp [rename, count?_label]
  · cases found : count? stem left with
    | none => simp [rename, found]
    | some count => exact absurd (count?_eq_some_iff.mp found) (foreign count).1

theorem Renamed.biUnique (stem target : String) (shift : Nat) :
    Relator.BiUnique (Renamed stem target shift) := by
  constructor
  · -- A fresh label never meets a foreign one on either side.
    intro left left' right first second
    rcases first with ⟨count, rfl, rfl⟩ | ⟨rfl, foreign⟩
    · rcases second with ⟨count', rfl, same⟩ | ⟨rfl, foreign⟩
      · have counts := label_injective same
        rw [Nat.add_right_cancel counts]
      · exact absurd rfl (foreign _).2
    · rcases second with ⟨count', rfl, rfl⟩ | ⟨rfl, _⟩
      · exact absurd rfl (foreign _).2
      · rfl
  · intro left right right' first second
    have renamedBy := renamed_renamedBy stem target shift
    rw [renamedBy left right first, renamedBy left right' second]

/-- Labels from one stem beside labels from another of which more have been
used. -/
def renamedSupply (stem target : String) (shift : Nat) : LabelSupply where
  leftStem := stem
  rightStem := target
  labels := Renamed stem target shift
  counts left right := right = left + shift
  fresh := by
    rintro left _ rfl
    exact Or.inl ⟨left, rfl, rfl⟩
  next := by
    rintro left _ rfl
    exact Nat.add_right_comm left shift 1

/-- No fresh label from the stem is this label. -/
def Foreign (stem text : String) : Prop :=
  ∀ count, text ≠ label stem count

theorem foreign_iff {stem text : String} :
    Foreign stem text ↔ count? stem text = none := by
  constructor
  · intro foreign
    cases found : count? stem text with
    | none => rfl
    | some count => exact absurd (count?_eq_some_iff.mp found) (foreign count)
  · intro absent count isLabel
    rw [count?_eq_some_iff.mpr isLabel] at absent
    cases absent

instance (stem text : String) : Decidable (Foreign stem text) :=
  decidable_of_iff _ foreign_iff.symm

theorem Foreign.renamed {stem target text : String} (shift : Nat)
    (foreign : Foreign stem text) (foreignTarget : Foreign target text) :
    Renamed stem target shift text text :=
  Or.inr ⟨rfl, fun count => ⟨foreign count, foreignTarget count⟩⟩

end LabelSource

/-! ## Renaming what carries labels -/

def Instance.relabel (rename : String → String) (inst : Instance) : Instance :=
  { inst with arguments := Term.relabelList rename inst.arguments }

def Fault.relabel (rename : String → String) : Fault → Fault
  | .typeMismatch template parameter expected actual =>
      .typeMismatch template parameter expected (actual.relabel rename)
  | .cyclicExpansion inst => .cyclicExpansion (inst.relabel rename)
  | .blankNodeNotAllowed template parameter value =>
      .blankNodeNotAllowed template parameter (value.relabel rename)
  | .invalidTriple position term reason =>
      .invalidTriple position (term.relabel rename) reason
  | fault => fault

def Failure.relabel (rename : String → String) (failure : Failure) : Failure :=
  { fault := failure.fault.relabel rename
    calls := failure.calls.map (Instance.relabel rename) }

/-- The outcome with every blank node renamed and further labels counted. -/
def Outcome.relabel (rename : String → String) (shift : Nat)
    (outcome : Outcome) : Outcome :=
  { result :=
      match outcome.result with
      | .ok triples => .ok (triples.map (Triple.relabel rename))
      | .error failure => .error (failure.relabel rename)
    allocated := outcome.allocated + shift }

/-- Two failures with matching faults inside matching calls. -/
structure Failure.Matches (labels : String → String → Prop)
    (left right : Failure) : Prop where
  fault : left.fault.Matches labels right.fault
  calls : List.Forall₂ (Instance.Matches labels) left.calls right.calls

variable {labels : String → String → Prop}

theorem eq_map_of_forall₂ {α : Type} {values : α → α → Prop} {change : α → α}
    (determined : ∀ left right, values left right → right = change left)
    {lefts rights : List α} (related : List.Forall₂ values lefts rights) :
    rights = lefts.map change := by
  induction related with
  | nil => rfl
  | cons head _ induction => rw [determined _ _ head, induction, List.map_cons]

section Renamed

variable {rename : String → String}

mutual

theorem Term.Matches.eq_relabel (renamedBy : RenamedBy labels rename) :
    ∀ {left right : Term}, left.Matches labels right →
      right = left.relabel rename
  | _, _, .iri _ | _, _, .literal _ | _, _, .var _ | _, _, .none => rfl
  | .blank _, .blank _, .blank related =>
      congrArg Term.blank (renamedBy _ _ related)
  | .list _, .list _, .list items =>
      congrArg Term.list (Term.all_eq_relabelList renamedBy items)

theorem Term.all_eq_relabelList (renamedBy : RenamedBy labels rename) :
    ∀ {lefts rights : List Term},
      List.Forall₂ (Term.Matches labels) lefts rights →
        rights = Term.relabelList rename lefts
  | [], _, .nil => rfl
  | _ :: _, _, .cons head tail => by
      simp only [Term.relabelList]
      rw [head.eq_relabel renamedBy, Term.all_eq_relabelList renamedBy tail]

end

variable (renamedBy : RenamedBy labels rename)

include renamedBy

theorem Triple.Matches.eq_relabel {left right : Triple}
    (matching : left.Matches labels right) : right = left.relabel rename := by
  obtain ⟨subject, predicate, object⟩ := right
  obtain ⟨subjects, predicates, objects⟩ := matching
  simp only at subjects predicates objects
  rw [subjects.eq_relabel renamedBy, predicates.eq_relabel renamedBy,
    objects.eq_relabel renamedBy]
  rfl

theorem Instance.Matches.eq_relabel {left right : Instance}
    (matching : left.Matches labels right) : right = left.relabel rename := by
  obtain ⟨template, arguments⟩ := right
  obtain ⟨sameTemplate, matchingArguments⟩ := matching
  simp only at sameTemplate matchingArguments
  rw [Term.all_eq_relabelList renamedBy matchingArguments, ← sameTemplate]
  rfl

theorem Fault.Matches.eq_relabel {left right : Fault}
    (matching : left.Matches labels right) : right = left.relabel rename := by
  cases matching with
  | plain empty =>
      cases left with
      | typeMismatch | blankNodeNotAllowed | invalidTriple => cases empty
      | cyclicExpansion inst =>
          obtain ⟨template, arguments⟩ := inst
          cases (empty : arguments = [])
          rfl
      | _ => rfl
  | typeMismatch _ _ _ terms | blankNodeNotAllowed _ _ terms
  | invalidTriple _ _ terms =>
      rw [terms.eq_relabel renamedBy]
      rfl
  | cyclicExpansion instances =>
      rw [instances.eq_relabel renamedBy]
      rfl

theorem Failure.Matches.eq_relabel {left right : Failure}
    (matching : left.Matches labels right) : right = left.relabel rename := by
  obtain ⟨fault, calls⟩ := right
  obtain ⟨faults, matchingCalls⟩ := matching
  simp only at faults matchingCalls
  have sameCalls : calls = left.calls.map (Instance.relabel rename) :=
    eq_map_of_forall₂ (fun _ _ call => call.eq_relabel renamedBy) matchingCalls
  rw [faults.eq_relabel renamedBy, sameCalls]
  rfl

end Renamed

/-! ## Telling matching terms apart -/

mutual

theorem Term.Matches.leftUnique (unique : Relator.LeftUnique labels) :
    ∀ {left other right : Term}, left.Matches labels right →
      other.Matches labels right → left = other
  | _, _, _, .iri _, second => by cases second; rfl
  | _, _, _, .literal _, second => by cases second; rfl
  | _, _, _, .var _, second => by cases second; rfl
  | _, _, _, .none, second => by cases second; rfl
  | _, _, _, .blank first, second => by
      cases second with
      | blank second => rw [unique first second]
  | .list _, _, _, .list items, second => by
      cases second with
      | list others => rw [Term.all_leftUnique unique items others]

theorem Term.all_leftUnique (unique : Relator.LeftUnique labels) :
    ∀ {lefts others rights : List Term},
      List.Forall₂ (Term.Matches labels) lefts rights →
        List.Forall₂ (Term.Matches labels) others rights → lefts = others
  | [], _, _, .nil, others => by cases others; rfl
  | _ :: _, _, _, .cons head tail, others => by
      cases others with
      | cons otherHead otherTail =>
          rw [head.leftUnique unique otherHead,
            Term.all_leftUnique unique tail otherTail]

end

theorem Instance.Matches.biUnique {rename : String → String}
    (unique : Relator.LeftUnique labels)
    (renamedBy : RenamedBy labels rename) :
    Relator.BiUnique (Instance.Matches labels) := by
  constructor
  · rintro ⟨_, _⟩ ⟨_, _⟩ right ⟨template, arguments⟩
      ⟨otherTemplate, otherArguments⟩
    simp only at template arguments otherTemplate otherArguments
    rw [template, otherTemplate,
      Term.all_leftUnique unique arguments otherArguments]
  · intro left right other first second
    rw [first.eq_relabel renamedBy, second.eq_relabel renamedBy]

/-- Whether an instance is among the active calls is the same on both sides. -/
theorem contains_eq {rename : String → String}
    (unique : Relator.LeftUnique labels) (renamedBy : RenamedBy labels rename)
    {leftCalls rightCalls : List Instance}
    (calls : List.Forall₂ (Instance.Matches labels) leftCalls rightCalls)
    {left right : Instance} (matching : left.Matches labels right) :
    leftCalls.contains left = rightCalls.contains right := by
  have sameMembers :=
    List.rel_mem (Instance.Matches.biUnique unique renamedBy) matching calls
  rw [List.contains_eq_mem, List.contains_eq_mem]
  exact decide_eq_decide.mpr sameMembers

end RdfTemplates
