import Mathlib.Data.List.Forall2
import RdfTemplates.Proofs.Variables

/-!
# Positions in terms

A position leads to a part of a term, at each step to an item of a list.  The
parts that are variables are met depth first in the order of their positions.
Substitution changes these parts and no others, and it fails at the first of
them that has no value.
-/

namespace RdfTemplates.Term

/-- The part of a term at a position, which tells item by item where it
stands. -/
def at? : Term → List Nat → Option Term
  | term, [] => some term
  | .list items, index :: position =>
      items[index]?.bind fun item => item.at? position
  | _, _ :: _ => Option.none

mutual

/-- What holds of everything that is no list, and of a list if it holds of its
items, holds of every term. -/
@[elab_as_elim]
theorem induction_items {motive : Term → Prop}
    (leaf : ∀ term, term.kind ≠ .list → motive term)
    (list : ∀ items, (∀ item ∈ items, motive item) → motive (.list items)) :
    ∀ term, motive term
  | .list items => list items (induction_of_mem leaf list items)
  | .iri name => leaf (.iri name) (by simp [kind])
  | .literal value => leaf (.literal value) (by simp [kind])
  | .blank label => leaf (.blank label) (by simp [kind])
  | .var name => leaf (.var name) (by simp [kind])
  | .none => leaf .none (by simp [kind])

theorem induction_of_mem {motive : Term → Prop}
    (leaf : ∀ term, term.kind ≠ .list → motive term)
    (list : ∀ items, (∀ item ∈ items, motive item) → motive (.list items)) :
    ∀ items : List Term, ∀ item ∈ items, motive item
  | [], _, member => by cases member
  | first :: items, item, member => by
      rcases List.mem_cons.mp member with isFirst | later
      · rw [isFirst]
        exact induction_items leaf list first
      · exact induction_of_mem leaf list items item later

end

/-! ## Parts -/

section Parts

variable {term part : Term} {items : List Term} {index : Nat}
  {position : List Nat} {name : String}

@[simp]
theorem at?_nil (term : Term) : term.at? [] = some term := by
  unfold at?
  rfl

theorem at?_cons_eq_some :
    (list items).at? (index :: position) = some part ↔
      ∃ item, items[index]? = some item ∧ item.at? position = some part := by
  rw [at?, Option.bind_eq_some_iff]

theorem at?_eq_some_of_kind (notList : term.kind ≠ .list) :
    term.at? position = some part ↔ position = [] ∧ part = term := by
  cases position with
  | nil => simp [eq_comm]
  | cons index position => cases term <;> simp_all [at?, kind]

theorem listVariableNames_eq_flatMap (items : List Term) :
    listVariableNames items = items.flatMap variableNames := by
  induction items with
  | nil => rfl
  | cons item items induction =>
      rw [listVariableNames, List.flatMap_cons, induction]

theorem mem_variableNames_iff {term : Term} : name ∈ term.variableNames ↔
    ∃ position, term.at? position = some (.var name) := by
  induction term using induction_items with
  | leaf term notList =>
      simp only [at?_eq_some_of_kind notList]
      cases term <;> simp_all [variableNames, kind]
  | list items induction =>
      rw [variableNames, mem_listVariableNames]
      constructor
      · intro occurs
        obtain ⟨item, member, inItem⟩ := occurs
        obtain ⟨index, here⟩ := List.mem_iff_getElem?.mp member
        obtain ⟨position, isThere⟩ := (induction item member).mp inItem
        exact ⟨index :: position, at?_cons_eq_some.mpr ⟨item, here, isThere⟩⟩
      · intro occurs
        obtain ⟨position, isThere⟩ := occurs
        cases position with
        | nil => simp at isThere
        | cons index position =>
            obtain ⟨item, here, inItem⟩ := at?_cons_eq_some.mp isThere
            have member := List.mem_of_getElem? here
            exact ⟨item, member, (induction item member).mpr ⟨position, inItem⟩⟩

theorem isGround_iff_forall_at? :
    term.isGround = true ↔
      ∀ position name, term.at? position ≠ some (.var name) := by
  rw [isGround_iff, List.eq_nil_iff_forall_not_mem]
  simp only [mem_variableNames_iff, not_exists]
  exact forall_comm

end Parts

/-! ## The first variable -/

/-- A position of a variable that passes a test, while none at an earlier
position does.  Positions are compared from the outermost list inwards. -/
structure IsFirstAt (test : String → Bool) (term : Term) (name : String)
    (position : List Nat) : Prop where
  here : term.at? position = some (.var name)
  passes : test name = true
  first : ∀ earlier < position, ∀ other, term.at? earlier = some (.var other) →
    test other = false

section First

variable {test : String → Bool} {name : String}

theorem IsFirstAt.not_lt {term : Term} {other : String}
    {position otherPosition : List Nat}
    (isFirst : IsFirstAt test term name position)
    (otherFirst : IsFirstAt test term other otherPosition) :
    ¬ position < otherPosition := by
  intro earlier
  have fails := otherFirst.first position earlier name isFirst.here
  rw [isFirst.passes] at fails
  cases fails

theorem IsFirstAt.unique {term : Term} {other : String}
    {position otherPosition : List Nat}
    (isFirst : IsFirstAt test term name position)
    (otherFirst : IsFirstAt test term other otherPosition) : name = other := by
  have same : position = otherPosition :=
    List.le_antisymm (otherFirst.not_lt isFirst) (isFirst.not_lt otherFirst)
  have here := isFirst.here
  rw [same, otherFirst.here] at here
  cases here
  rfl

/-- Depth first, a variable of an item comes after those of the items before. -/
theorem exists_isFirstAt {term : Term}
    (found : term.variableNames.find? test = some name) :
    ∃ position, IsFirstAt test term name position := by
  induction term using induction_items with
  | leaf term notList =>
      have passes := List.find?_some found
      have isVar : term = .var name := by
        cases term <;> simp_all [variableNames, kind]
      refine ⟨[], ?_, passes, ?_⟩
      · rw [at?_nil, isVar]
      · intro earlier isEarlier
        exact absurd isEarlier (List.not_lt_nil earlier)
  | list items induction =>
      rw [variableNames, listVariableNames_eq_flatMap, List.find?_flatMap,
        List.findSome?_eq_some_iff] at found
      obtain ⟨before, item, after, whole, inItem, notBefore⟩ := found
      subst whole
      obtain ⟨position, isFirst⟩ := induction item (by simp) inItem
      refine ⟨before.length :: position, ?_, isFirst.passes, ?_⟩
      · exact at?_cons_eq_some.mpr ⟨item, by simp, isFirst.here⟩
      · intro earlier isEarlier other isThere
        cases earlier with
        | nil => simp at isThere
        | cons index rest =>
            obtain ⟨earlierItem, here, inEarlier⟩ := at?_cons_eq_some.mp isThere
            -- An earlier variable is in an item before, or earlier in the same
            -- item.
            rcases List.cons_lt_cons_iff.mp isEarlier with isBefore |
              ⟨same, restEarlier⟩
            · rw [List.getElem?_append_left isBefore] at here
              have inItem := mem_variableNames_iff.mpr ⟨rest, inEarlier⟩
              have fails := notBefore earlierItem (List.mem_of_getElem? here)
              exact Bool.eq_false_iff.mpr
                (List.find?_eq_none.mp fails other inItem)
            · subst same
              rw [List.getElem?_append_right (Nat.le_refl _), Nat.sub_self]
                at here
              cases here
              exact isFirst.first rest restEarlier other inEarlier

/-- Depth first and by position, the first variable that passes a test is the
same. -/
theorem find?_variableNames_eq_some_iff {term : Term} :
    term.variableNames.find? test = some name ↔
      ∃ position, IsFirstAt test term name position := by
  constructor
  · exact exists_isFirstAt
  · intro isFirst
    obtain ⟨position, isFirst⟩ := isFirst
    cases found : term.variableNames.find? test with
    | none =>
        have fails := List.find?_eq_none.mp found name
          (mem_variableNames_iff.mpr ⟨_, isFirst.here⟩)
        exact absurd isFirst.passes fails
    | some other =>
        obtain ⟨otherPosition, otherFirst⟩ := exists_isFirstAt found
        rw [otherFirst.unique isFirst]

theorem firstVariable?_eq_some_iff {term : Term} :
    term.firstVariable? = some name ↔
      ∃ position, IsFirstAt (fun _ => true) term name position := by
  rw [firstVariable?_eq_head?, ← find?_variableNames_eq_some_iff]
  cases term.variableNames <;> simp

end First

/-! ## Substitution -/

/-- What one part of a term is replaced by: a variable by its value, a list by a
list of as many items, and everything else by itself. -/
inductive PartReplacedBy (lookup : String → Option Term) :
    Term → Term → Prop where
  | var {name bound} :
      lookup name = some bound → PartReplacedBy lookup (.var name) bound
  | list {items values} : values.length = items.length →
      PartReplacedBy lookup (.list items) (.list values)
  | other {part} :
      part.kind ≠ .var → part.kind ≠ .list → PartReplacedBy lookup part part

/-- Whether the value is the term with its variables replaced, part by part.  No
position of the term leads into the value of a variable, and so this is put in
as it is. -/
def ReplacedBy (lookup : String → Option Term) (term value : Term) : Prop :=
  ∀ position part, term.at? position = some part →
    ∃ replacement, value.at? position = some replacement ∧
      PartReplacedBy lookup part replacement

section Substitution

variable {lookup : String → Option Term} {term value : Term}
  {items values : List Term}

theorem substituteList_eq_ok_iff :
    substituteList lookup items = .ok values ↔
      List.Forall₂ (fun item value => item.substitute lookup = .ok value) items
        values := by
  induction items generalizing values with
  | nil => simp [substituteList, eq_comm]
  | cons item items induction =>
      rw [List.forall₂_cons_left_iff]
      simp only [← induction]
      rw [substituteList]
      cases item.substitute lookup <;> cases substituteList lookup items <;>
        simp [eq_comm]

theorem partReplacedBy_iff_of_kind (notList : term.kind ≠ .list) :
    PartReplacedBy lookup term value ↔ term.substitute lookup = .ok value := by
  constructor
  · intro replaced
    cases replaced with
    | var found => rw [substitute, found]
    | list => exact absurd rfl notList
    | other notVar _ => cases term <;> simp_all [substitute, kind]
  · intro done
    cases term with
    | var name =>
        rw [substitute] at done
        split at done
        · rename_i found
          cases done
          exact .var found
        · cases done
    | list items => exact absurd rfl notList
    | iri _ | literal _ | blank _ | none =>
        cases done
        exact .other (by simp [kind]) (by simp [kind])

theorem replacedBy_iff_of_kind (notList : term.kind ≠ .list) :
    ReplacedBy lookup term value ↔ PartReplacedBy lookup term value := by
  simp only [ReplacedBy, at?_eq_some_of_kind notList]
  constructor
  · intro replaced
    obtain ⟨replacement, isWhole, isReplaced⟩ := replaced [] term ⟨rfl, rfl⟩
    cases isWhole
    exact isReplaced
  · intro replaced position part here
    obtain ⟨isWhole, same⟩ := here
    subst isWhole same
    exact ⟨value, at?_nil value, replaced⟩

theorem replacedBy_list_iff :
    ReplacedBy lookup (.list items) value ↔
      ∃ values, value = .list values ∧
        List.Forall₂ (ReplacedBy lookup) items values := by
  constructor
  · intro replaced
    obtain ⟨replacement, isWhole, isReplaced⟩ :=
      replaced [] (.list items) (at?_nil _)
    cases isWhole
    cases isReplaced with
    | list lengths =>
        rename_i values
        refine ⟨values, rfl, List.forall₂_iff_get.mpr ⟨lengths.symm, ?_⟩⟩
        intro index itemBound valueBound position part here
        obtain ⟨replacement, isThere, isReplaced⟩ :=
          replaced (index :: position) part
            (at?_cons_eq_some.mpr ⟨_, List.getElem?_eq_getElem itemBound, here⟩)
        obtain ⟨item, isItem, inItem⟩ := at?_cons_eq_some.mp isThere
        rw [List.getElem?_eq_getElem valueBound, Option.some.injEq] at isItem
        subst isItem
        exact ⟨replacement, inItem, isReplaced⟩
    | other _ notList => exact absurd rfl notList
  · intro listReplaced
    obtain ⟨values, isList, replaced⟩ := listReplaced
    subst isList
    obtain ⟨lengths, itemReplaced⟩ := List.forall₂_iff_get.mp replaced
    intro position part here
    cases position with
    | nil =>
        rw [at?_nil, Option.some.injEq] at here
        subst here
        exact ⟨.list values, at?_nil _, .list lengths.symm⟩
    | cons index position =>
        obtain ⟨item, isItem, inItem⟩ := at?_cons_eq_some.mp here
        obtain ⟨itemBound, isItem⟩ := List.getElem?_eq_some_iff.mp isItem
        subst isItem
        have valueBound : index < values.length := lengths ▸ itemBound
        obtain ⟨replacement, isThere, isReplaced⟩ :=
          itemReplaced index itemBound valueBound position part inItem
        refine ⟨replacement, ?_, isReplaced⟩
        exact at?_cons_eq_some.mpr
          ⟨_, List.getElem?_eq_getElem valueBound, isThere⟩

/-- Substitution replaces the variables of a term and nothing else. -/
theorem substitute_eq_ok_iff :
    term.substitute lookup = .ok value ↔ ReplacedBy lookup term value := by
  induction term using induction_items generalizing value with
  | leaf term notList =>
      rw [replacedBy_iff_of_kind notList, partReplacedBy_iff_of_kind notList]
  | list items induction =>
      have itemwise (values : List Term) :
          substituteList lookup items = .ok values ↔
            List.Forall₂ (ReplacedBy lookup) items values := by
        rw [substituteList_eq_ok_iff, List.forall₂_iff_get,
          List.forall₂_iff_get]
        constructor
        · intro done
          refine ⟨done.1, ?_⟩
          intro index itemBound valueBound
          exact (induction _ (List.get_mem items _)).mp
            (done.2 index itemBound valueBound)
        · intro replaced
          refine ⟨replaced.1, ?_⟩
          intro index itemBound valueBound
          exact (induction _ (List.get_mem items _)).mpr
            (replaced.2 index itemBound valueBound)
      rw [replacedBy_list_iff, substitute]
      simp only [← itemwise]
      cases substituteList lookup items <;> simp [eq_comm]

/-- Substitution fails at the first variable, in the order of positions, without
a value. -/
theorem substitute_eq_error_iff_isFirstAt {name : String} :
    term.substitute lookup = .error name ↔
      ∃ position, IsFirstAt (fun name => (lookup name).isNone) term name
        position := by
  rw [substitute_eq_error_iff, find?_variableNames_eq_some_iff]

theorem exists_substitute_iff :
    (∃ value, term.substitute lookup = .ok value) ↔
      ∀ position name, term.at? position = some (.var name) →
        (lookup name).isSome = true := by
  constructor
  · intro succeeds position name here
    obtain ⟨value, done⟩ := succeeds
    obtain ⟨replacement, _, isReplaced⟩ :=
      substitute_eq_ok_iff.mp done position _ here
    cases isReplaced with
    | var found => rw [found, Option.isSome_some]
    | other notVar _ => exact absurd rfl notVar
  · intro bound
    cases done : term.substitute lookup with
    | ok value => exact ⟨value, rfl⟩
    | error name =>
        obtain ⟨position, isFirst⟩ := substitute_eq_error_iff_isFirstAt.mp done
        have unbound := isFirst.passes
        rw [← Option.not_isSome, bound position name isFirst.here] at unbound
        cases unbound

theorem isGround_of_substitute (done : term.substitute lookup = .ok value)
    (ground : ∀ name bound, lookup name = some bound → bound.isGround = true) :
    value.isGround = true := by
  rw [isGround_iff, List.eq_nil_iff_forall_not_mem]
  intro name occurs
  obtain ⟨replaced, bound, found, inBound⟩ :=
    mem_variableNames_of_substitute done occurs
  rw [(isGround_iff bound).mp (ground replaced bound found)] at inBound
  cases inBound

end Substitution

end RdfTemplates.Term
