import RdfTemplates.Proofs.Restoration.Steps

/-!
# Chains of scopes

A scope is created with a parent that is live at that time, and so with an older
one.  As scopes are released the newest first, no parent is ever gone before its
scope: from every live scope the parents lead down to older and older ones, and
a lookup follows them.
-/

namespace RdfTemplates

namespace ScopeArena

/-- The scope of a handle, counted from the oldest one. -/
def scope? (arena : ScopeArena) (id : ScopeId) : Option Scope :=
  arena.scopes.reverse[id]?

/-- The value of a name in one scope alone. -/
def bound? (arena : ScopeArena) (name : String) (id : ScopeId) : Option Term :=
  (arena.scope? id).bind (·.bindings.lookup name)

/-- Every parent is older than its scope. -/
def Descending (arena : ScopeArena) : Prop :=
  ∀ id scope parent, arena.scope? id = some scope → scope.parent = some parent →
    parent < id

/-- A scope with its parent, the parent of that, and so on to a scope without
one. -/
inductive ParentChain (arena : ScopeArena) : ScopeId → List ScopeId → Prop where
  | root {id scope} : arena.scope? id = some scope → scope.parent = none →
      ParentChain arena id [id]
  | child {id scope parent chain} : arena.scope? id = some scope →
      scope.parent = some parent → ParentChain arena parent chain →
      ParentChain arena id (id :: chain)

/-! ## Live scopes -/

section Live

variable {arena older : ScopeArena} {id : ScopeId} {scope : Scope}
  {name : String}

theorem isLive_iff : arena.isLive id = true ↔ id < arena.scopes.length :=
  decide_eq_true_iff

theorem exists_scope?_of_isLive (live : arena.isLive id = true) :
    ∃ scope, arena.scope? id = some scope := by
  have bound : id < arena.scopes.reverse.length := by
    rw [List.length_reverse]
    exact isLive_iff.mp live
  exact ⟨arena.scopes.reverse[id], List.getElem?_eq_getElem bound⟩

theorem isLive_of_scope? (found : arena.scope? id = some scope) :
    arena.isLive id = true := by
  have bound := (List.getElem?_eq_some_iff.mp found).1
  rw [List.length_reverse] at bound
  exact isLive_iff.mpr bound

theorem scope?_newest (scope : Scope) (older : List Scope) :
    scope? ⟨scope :: older⟩ older.length = some scope := by
  simp [scope?]

/-- Newer scopes do not change what a handle stands for. -/
theorem scope?_of_suffix (newer : older.scopes <:+ arena.scopes)
    (live : older.isLive id = true) : arena.scope? id = older.scope? id := by
  obtain ⟨created, whole⟩ := newer
  have bound : id < older.scopes.reverse.length := by
    rw [List.length_reverse]
    exact isLive_iff.mp live
  rw [scope?, scope?, ← whole, List.reverse_append,
    List.getElem?_append_left bound]

theorem lookup_of_suffix (newer : older.scopes <:+ arena.scopes)
    (live : older.isLive id = true) (name : String) :
    arena.lookup id name = older.lookup id name := by
  obtain ⟨created, whole⟩ := newer
  have bound := isLive_iff.mp live
  rw [lookup, lookup, ← whole]
  clear whole
  induction created with
  | nil => rfl
  | cons scope created induction =>
      have notNewest : id ≠ (created ++ older.scopes).length := by
        rw [List.length_append]
        exact Nat.ne_of_lt (Nat.lt_of_lt_of_le bound (Nat.le_add_left _ _))
      rw [List.cons_append, lookupIn, if_neg notNewest, induction]

end Live

/-! ## Parents -/

section Parents

variable {arena older : ScopeArena} {id parent : ScopeId} {scope : Scope}

theorem descending_empty : Descending {} := by
  intro id scope parent found
  cases found

theorem Descending.of_suffix (descending : arena.Descending)
    (newer : older.scopes <:+ arena.scopes) : older.Descending := by
  intro id scope parent found hasParent
  have live := isLive_of_scope? found
  rw [← scope?_of_suffix newer live] at found
  exact descending id scope parent found hasParent

theorem Descending.push (descending : arena.Descending)
    {parent : Option ScopeId}
    (live : ∀ id, parent = some id → arena.isLive id = true) :
    (arena.push parent).2.Descending := by
  intro id scope ancestor found hasParent
  have newer : arena.scopes <:+ (arena.push parent).2.scopes :=
    List.suffix_cons _ _
  by_cases isOlder : arena.isLive id = true
  · rw [scope?_of_suffix newer isOlder] at found
    exact descending id scope ancestor found hasParent
  · have bound := isLive_iff.mp (isLive_of_scope? found)
    have newest : id = arena.scopes.length :=
      Nat.le_antisymm (Nat.le_of_lt_succ bound)
        (Nat.le_of_not_lt (mt isLive_iff.mpr isOlder))
    subst newest
    rw [show (arena.push parent).2.scope? arena.scopes.length = _ from
      scope?_newest _ _] at found
    cases found
    exact isLive_iff.mp (live ancestor hasParent)

theorem parents_bindIn {name : String} {value : Term}
    {scopes bound : List Scope}
    (added : bindIn id name value scopes = .ok bound) :
    bound.map (·.parent) = scopes.map (·.parent) := by
  induction scopes generalizing bound with
  | nil => cases added
  | cons scope older induction =>
      simp only [bindIn] at added
      split at added
      · split at added
        · cases added
        · cases added
          rfl
      · split at added
        · rename_i olderBound olderAdded
          cases added
          simp [induction olderAdded]
        · cases added

theorem Descending.bind (descending : arena.Descending) {name : String}
    {value : Term} {next : ScopeArena}
    (bound : arena.bind id name value = .ok next) : next.Descending := by
  have parents : next.scopes.map (·.parent) = arena.scopes.map (·.parent) := by
    simp only [ScopeArena.bind] at bound
    split at bound
    · rename_i scopes added
      cases bound
      exact parents_bindIn added
    · cases bound
  have parentOf (arena : ScopeArena) (id : ScopeId) :
      (arena.scope? id).map (·.parent) =
        (arena.scopes.map (·.parent)).reverse[id]? := by
    rw [scope?, ← List.map_reverse]
    exact List.getElem?_map.symm
  intro child scope parent found hasParent
  have sameParent :
      (arena.scope? child).map (·.parent) = some (some parent) := by
    rw [parentOf, ← parents, ← parentOf, found, Option.map_some, hasParent]
  obtain ⟨before, foundBefore, hadParent⟩ :=
    Option.map_eq_some_iff.mp sameParent
  exact descending child before parent foundBefore hadParent

/-- A lookup looks into a scope and then goes on with its parent. -/
theorem lookup_eq (descending : arena.Descending)
    (found : arena.scope? id = some scope) (name : String) :
    arena.lookup id name =
      (scope.bindings.lookup name).or
        (scope.parent.bind fun parent => arena.lookup parent name) := by
  obtain ⟨scopes⟩ := arena
  induction scopes with
  | nil => cases found
  | cons newest older induction =>
      have newer : older <:+ newest :: older := List.suffix_cons newest older
      have olderDescending : Descending ⟨older⟩ := descending.of_suffix newer
      have bound : id ≤ older.length :=
        Nat.le_of_lt_succ (isLive_iff.mp (isLive_of_scope? found))
      -- What is asked of a parent is asked of the older scopes.
      have fallsBack : (scope.parent.bind fun parent =>
          lookup ⟨newest :: older⟩ parent name) =
          scope.parent.bind fun parent => lookup ⟨older⟩ parent name := by
        cases hasParent : scope.parent with
        | none => rfl
        | some parent =>
            have isOlder := descending id scope parent found hasParent
            have live : isLive ⟨older⟩ parent = true :=
              isLive_iff.mpr (Nat.lt_of_lt_of_le isOlder bound)
            exact lookup_of_suffix newer live name
      by_cases isNewest : id = older.length
      · subst isNewest
        rw [scope?_newest] at found
        cases found
        rw [fallsBack]
        simp only [lookup, lookupIn, ↓reduceIte]
        cases scope.bindings.lookup name with
        | some value => rfl
        | none => cases scope.parent <;> rfl
      · have live : isLive ⟨older⟩ id = true :=
          isLive_iff.mpr (Nat.lt_of_le_of_ne bound isNewest)
        rw [scope?_of_suffix newer live] at found
        rw [fallsBack, lookup_of_suffix newer live]
        exact induction olderDescending found

theorem exists_parentChain (descending : arena.Descending)
    (live : arena.isLive id = true) : ∃ chain, arena.ParentChain id chain := by
  induction id using Nat.strongRecOn with
  | _ id induction =>
      obtain ⟨scope, found⟩ := exists_scope?_of_isLive live
      cases hasParent : scope.parent with
      | none => exact ⟨[id], .root found hasParent⟩
      | some parent =>
          have isOlder := descending id scope parent found hasParent
          have parentLive :=
            isLive_iff.mpr (Nat.lt_trans isOlder (isLive_iff.mp live))
          obtain ⟨chain, goesOn⟩ := induction parent isOlder parentLive
          exact ⟨id :: chain, .child found hasParent goesOn⟩

end Parents

namespace ParentChain

variable {arena : ScopeArena} {id : ScopeId} {chain : List ScopeId}

theorem unique {other : List ScopeId} (goesOn : arena.ParentChain id chain)
    (otherGoesOn : arena.ParentChain id other) : chain = other := by
  induction goesOn generalizing other with
  | root found noParent =>
      cases otherGoesOn with
      | root => rfl
      | child otherFound hasParent _ =>
          rw [found] at otherFound
          cases otherFound
          rw [noParent] at hasParent
          cases hasParent
  | child found hasParent _ induction =>
      cases otherGoesOn with
      | root otherFound noParent =>
          rw [found] at otherFound
          cases otherFound
          rw [hasParent] at noParent
          cases noParent
      | child otherFound otherParent otherRest =>
          rw [found] at otherFound
          cases otherFound
          rw [hasParent] at otherParent
          cases otherParent
          rw [induction otherRest]

theorem isLive (goesOn : arena.ParentChain id chain) :
    ∀ member ∈ chain, arena.isLive member = true := by
  induction goesOn with
  | root found _ => exact List.forall_mem_singleton.mpr (isLive_of_scope? found)
  | child found _ _ induction =>
      exact List.forall_mem_cons.mpr ⟨isLive_of_scope? found, induction⟩

theorem pairwise (descending : arena.Descending)
    (goesOn : arena.ParentChain id chain) : chain.Pairwise (· > ·) := by
  rw [← List.isChain_iff_pairwise]
  induction goesOn with
  | root => exact List.IsChain.singleton _
  | child found hasParent rest induction =>
      have isOlder := descending _ _ _ found hasParent
      cases rest with
      | root => exact List.isChain_cons_cons.mpr ⟨isOlder, induction⟩
      | child => exact List.isChain_cons_cons.mpr ⟨isOlder, induction⟩

/-- A lookup finds the nearest scope of the chain that binds the name. -/
theorem lookup_eq_findSome? (descending : arena.Descending)
    (goesOn : arena.ParentChain id chain) (name : String) :
    arena.lookup id name = chain.findSome? (arena.bound? name) := by
  induction goesOn with
  | root found noParent =>
      rw [lookup_eq descending found, noParent, List.findSome?_singleton,
        bound?, found]
      simp
  | @child id scope _ _ found hasParent _ induction =>
      have here : arena.bound? name id = scope.bindings.lookup name := by
        rw [bound?, found, Option.bind_some]
      rw [lookup_eq descending found, hasParent, Option.bind_some, induction,
        List.findSome?_cons, here]
      cases scope.bindings.lookup name <;> rfl

end ParentChain

end ScopeArena

end RdfTemplates
