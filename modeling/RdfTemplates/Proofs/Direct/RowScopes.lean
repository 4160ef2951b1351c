import RdfTemplates.Proofs.Direct.Semantics
import RdfTemplates.Proofs.Library.Construction

/-!
# Scopes of rows

The values of a row are split over two scopes: one of the defaults, shared by
all rows of an instance, and one of the values that differ from them.  A name
looked up in the scope of a row has the value that the row gives to the
parameter of that name, and no other name has a value there.
-/

namespace RdfTemplates

/-- A scope in which names have been bound one after the other. -/
def Scope.ofBindings (parent : Option ScopeId)
    (bindings : List (String × Term)) : Scope :=
  { bindings := bindings.reverse, parent }

/-- The state with other scopes. -/
def ExpansionState.withScopes (state : ExpansionState) (scopes : ScopeArena) :
    ExpansionState :=
  { state with context := { state.context with scopes } }

theorem lookup_reverse_of_nodup {bindings : List (String × Term)}
    (distinct : (bindings.map Prod.fst).Nodup) (name : String) :
    bindings.reverse.lookup name = bindings.lookup name := by
  induction bindings with
  | nil => rfl
  | cons binding bindings induction =>
      obtain ⟨head, value⟩ := binding
      obtain ⟨fresh, tailDistinct⟩ := List.nodup_cons.mp distinct
      rw [List.reverse_cons, List.lookup_append, induction tailDistinct]
      by_cases same : name = head
      · subst same
        have absent : bindings.lookup name = none := by
          rw [List.lookup_eq_none_iff]
          intro other member
          have different : name ≠ other.1 := by
            rintro rfl
            exact fresh (List.mem_map.mpr ⟨other, member, rfl⟩)
          simpa using different
        simp [absent]
      · have different : (name == head) = false := by simpa using same
        simp [List.lookup_cons, different]

namespace ScopeArena

theorem bind_newest {scope : Scope} {older : List Scope} {name : String}
    (value : Term) (unbound : scope.bindings.lookup name = none) :
    bind ⟨scope :: older⟩ older.length name value =
      .ok ⟨{ scope with bindings := (name, value) :: scope.bindings } ::
        older⟩ := by
  simp [bind, bindIn, unbound]

/-- A lookup in the newest scope falls back on its parent just below. -/
theorem lookup_newest {row defaults : Scope} {older : List Scope}
    (name : String) (rowParent : row.parent = some older.length)
    (defaultsParent : defaults.parent = none) :
    lookup ⟨row :: defaults :: older⟩ (older.length + 1) name =
      (row.bindings.lookup name).or (defaults.bindings.lookup name) := by
  simp only [lookup, lookupIn, List.length_cons, ↓reduceIte, rowParent,
    defaultsParent]
  cases row.bindings.lookup name with
  | some value => rfl
  | none => cases defaults.bindings.lookup name <;> rfl

end ScopeArena

namespace Expansion

theorem bindNames_newest {bindings : List (String × Term)}
    {state : ExpansionState} {scope : Scope} {older : List Scope}
    (scopes : state.context.scopes = ⟨scope :: older⟩)
    (distinct : (bindings.map Prod.fst).Nodup)
    (unbound : ∀ binding ∈ bindings, scope.bindings.lookup binding.1 = none) :
    bindNames older.length bindings state =
      .ok () (state.withScopes
        ⟨{ scope with bindings := bindings.reverse ++ scope.bindings } ::
          older⟩) := by
  induction bindings generalizing state scope with
  | nil =>
      simp [bindNames, ExpansionState.withScopes, ← scopes, pure, EStateM.pure]
  | cons binding bindings induction =>
      obtain ⟨name, value⟩ := binding
      obtain ⟨fresh, tailDistinct⟩ := List.nodup_cons.mp distinct
      have unboundHead : scope.bindings.lookup name = none :=
        unbound (name, value) List.mem_cons_self
      let bound : Scope :=
        { scope with bindings := (name, value) :: scope.bindings }
      have headBound : bindName older.length name value state =
          .ok () (state.withScopes ⟨bound :: older⟩) := by
        simp [bindName, scopes, ScopeArena.bind_newest value unboundHead,
          ExpansionState.withScopes, bound]
      have tailUnbound :
          ∀ binding ∈ bindings, bound.bindings.lookup binding.1 = none := by
        intro binding member
        have different : (binding.1 == name) = false := by
          have notName : binding.1 ≠ name := by
            rintro rfl
            exact fresh (List.mem_map.mpr ⟨binding, member, rfl⟩)
          simpa using notName
        simp only [bound, List.lookup_cons, different]
        exact unbound binding (List.mem_cons_of_mem _ member)
      have tailScopes : (state.withScopes ⟨bound :: older⟩).context.scopes =
          ⟨bound :: older⟩ := rfl
      have tailBound := induction tailScopes tailDistinct tailUnbound
      simp only [bindNames, bind, EStateM.bind, headBound, tailBound]
      simp [ExpansionState.withScopes, bound]

theorem pushScope_eq {state : ExpansionState} {scopes : ScopeArena}
    (liveScopes : state.context.scopes = scopes) (parent : Option ScopeId) :
    pushScope parent state =
      .ok scopes.size (state.withScopes ⟨{ parent } :: scopes.scopes⟩) := by
  simp [pushScope, ScopeArena.push, liveScopes, ExpansionState.withScopes]

theorem bindNames_pushed {bindings : List (String × Term)}
    (distinct : (bindings.map Prod.fst).Nodup) (state : ExpansionState)
    (scopes : ScopeArena) (parent : Option ScopeId) :
    bindNames scopes.size bindings
      (state.withScopes ⟨{ parent } :: scopes.scopes⟩) =
      .ok () (state.withScopes ⟨Scope.ofBindings parent bindings ::
        scopes.scopes⟩) := by
  have pushedScopes :
      (state.withScopes ⟨{ parent } :: scopes.scopes⟩).context.scopes =
        ⟨{ parent } :: scopes.scopes⟩ := rfl
  rw [ScopeArena.size, bindNames_newest pushedScopes distinct (by simp)]
  simp [ExpansionState.withScopes, Scope.ofBindings]

/-- A step in a new scope starts with the names of that scope bound. -/
theorem inNewScope {parent : Option ScopeId} {bindings : List (String × Term)}
    {α : Type} (step : ScopeId → Expansion α) {state : ExpansionState}
    {scopes : ScopeArena} (liveScopes : state.context.scopes = scopes)
    (distinct : (bindings.map Prod.fst).Nodup) :
    (do
      let scope ← pushScope parent
      bindNames scope bindings
      step scope : Expansion α) state =
        step scopes.size
          (state.withScopes
            ⟨Scope.ofBindings parent bindings :: scopes.scopes⟩) := by
  simp only [Bind.bind, EStateM.bind, pushScope_eq liveScopes,
    bindNames_pushed distinct]

theorem fst_defaultBindings_sublist (parameters : List Parameter) :
    ((defaultBindings parameters).map Prod.fst).Sublist
      (parameters.map (·.name)) := by
  induction parameters with
  | nil => exact List.Sublist.refl _
  | cons parameter parameters induction =>
      cases hasDefault : parameter.default with
      | none =>
          simpa [defaultBindings, hasDefault]
            using induction.cons parameter.name
      | some value =>
          simpa [defaultBindings, hasDefault] using induction

/-- A row scope holds the first value only if it is not the default. -/
theorem rowBindings_cons (parameter : Parameter) (parameters : List Parameter)
    (value : Term) (row : List Term) :
    rowBindings (parameter :: parameters) (value :: row) =
      if parameter.default = some value then rowBindings parameters row
      else (parameter.name, value) :: rowBindings parameters row := by
  by_cases isDefault : parameter.default = some value
  · simp [rowBindings, isDefault]
  · simp [rowBindings, isDefault]

theorem fst_rowBindings_sublist (parameters : List Parameter)
    (row : List Term) :
    ((rowBindings parameters row).map Prod.fst).Sublist
      (parameters.map (·.name)) := by
  induction parameters generalizing row with
  | nil => simp [rowBindings]
  | cons parameter parameters induction =>
      cases row with
      | nil => simp [rowBindings]
      | cons value row =>
          rw [rowBindings_cons]
          split
          · exact (induction row).cons parameter.name
          · exact (induction row).cons_cons parameter.name

theorem lookup_eq_none_of_sublist {bindings : List (String × Term)}
    {parameters : List Parameter} {name : String}
    (sublist : (bindings.map Prod.fst).Sublist (parameters.map (·.name)))
    (absent : name ∉ parameters.map (·.name)) :
    bindings.lookup name = none := by
  rw [List.lookup_eq_none_iff]
  intro binding member
  have different : name ≠ binding.1 := by
    intro equality
    exact absent (sublist.subset (equality ▸ List.mem_map_of_mem member))
  simpa using different

theorem lookup_rowBindings_cons_of_ne {parameter : Parameter} {name : String}
    (different : name ≠ parameter.name) (parameters : List Parameter)
    (value : Term) (row : List Term) :
    (rowBindings (parameter :: parameters) (value :: row)).lookup name =
      (rowBindings parameters row).lookup name := by
  rw [rowBindings_cons]
  split
  · rfl
  · rw [List.lookup_cons, beq_false_of_ne different]

theorem lookup_defaultBindings_cons_of_ne {parameter : Parameter}
    {name : String} (different : name ≠ parameter.name)
    (parameters : List Parameter) :
    (defaultBindings (parameter :: parameters)).lookup name =
      (defaultBindings parameters).lookup name := by
  cases isDefault : parameter.default with
  | none => simp [defaultBindings, isDefault]
  | some default =>
      simp [defaultBindings, isDefault, List.lookup_cons,
        beq_false_of_ne different]

/-- The two scopes of a row together hold exactly the values of the row. -/
theorem lookup_rowBindings_or_default {parameters : List Parameter}
    {row : List Term} (distinct : (parameters.map (·.name)).Nodup)
    (lengths : row.length = parameters.length) (name : String) :
    ((rowBindings parameters row).lookup name).or
      ((defaultBindings parameters).lookup name) =
      Direct.rowValue parameters row name := by
  induction parameters generalizing row with
  | nil => simp [rowBindings, defaultBindings, Direct.rowValue]
  | cons parameter parameters induction =>
      cases row with
      | nil => simp at lengths
      | cons value row =>
          obtain ⟨fresh, tailDistinct⟩ := List.nodup_cons.mp distinct
          have tail := induction tailDistinct (by simpa using lengths)
          by_cases same : name = parameter.name
          · subst same
            have tailAbsent :
                (rowBindings parameters row).lookup parameter.name = none :=
              lookup_eq_none_of_sublist (fst_rowBindings_sublist parameters row)
                fresh
            rw [rowBindings_cons]
            split
            · -- The value is left out, but the defaults hold the same one.
              rename_i isDefault
              have defaultHolds : defaultBindings (parameter :: parameters) =
                  (parameter.name, value) :: defaultBindings parameters := by
                simp [defaultBindings, isDefault]
              rw [tailAbsent, defaultHolds]
              simp [Direct.rowValue]
            · simp [Direct.rowValue]
          · rw [lookup_rowBindings_cons_of_ne same,
              lookup_defaultBindings_cons_of_ne same, tail]
            simp [Direct.rowValue, beq_false_of_ne (Ne.symm same)]

theorem lookup_rowScope {parameters : List Parameter} {row : List Term}
    {older : List Scope} (distinct : (parameters.map (·.name)).Nodup)
    (lengths : row.length = parameters.length) (name : String) :
    ScopeArena.lookup
        ⟨Scope.ofBindings (some older.length) (rowBindings parameters row) ::
          Scope.ofBindings none (defaultBindings parameters) :: older⟩
        (older.length + 1) name =
      Direct.rowValue parameters row name := by
  have rowDistinct := distinct.sublist (fst_rowBindings_sublist parameters row)
  have defaultsDistinct :=
    distinct.sublist (fst_defaultBindings_sublist parameters)
  rw [ScopeArena.lookup_newest name rfl rfl]
  simp only [Scope.ofBindings]
  rw [lookup_reverse_of_nodup rowDistinct,
    lookup_reverse_of_nodup defaultsDistinct]
  exact lookup_rowBindings_or_default distinct lengths name

end Expansion

end RdfTemplates
