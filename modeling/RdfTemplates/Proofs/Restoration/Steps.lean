import RdfTemplates.Proofs.Direct.Refinement
import RdfTemplates.Proofs.Pervasive

/-!
# Restoration of the context

An expansion makes calls active and creates scopes, and any of its steps may
fail in the middle of that.  However it ends, the calls and scopes are those
that it was started with.  All that is left of it are labels that have been used
and triples that have been put out.
-/

namespace RdfTemplates

/-- One state goes on from another under the same options.  Labels may have been
used and triples put out. -/
structure ExpansionState.GoesOn (before after : ExpansionState) : Prop where
  maxDepth : after.context.maxDepth = before.context.maxDepth
  checkTypes : after.context.checkTypes = before.context.checkTypes
  refusesRepeats : after.context.refusesRepeats = before.context.refusesRepeats
  stem : after.context.labels.stem = before.context.labels.stem
  allocated : before.context.labels.allocated ≤ after.context.labels.allocated
  output : before.output.toList <+: after.output.toList

/-- One state goes on from another with the same active calls and the same
scopes, with all their bindings. -/
structure ExpansionState.Restored (before after : ExpansionState) : Prop
    extends before.GoesOn after where
  calls : after.context.calls = before.context.calls
  scopes : after.context.scopes = before.context.scopes

namespace ExpansionState

/-- Calls, scopes and events may change. -/
theorem GoesOn.same {before after : ExpansionState} {calls : List Instance}
    {scopes : ScopeArena}
    (context : after.context = { before.context with calls, scopes })
    (output : after.output = before.output) : before.GoesOn after where
  maxDepth := by rw [context]
  checkTypes := by rw [context]
  refusesRepeats := by rw [context]
  stem := by rw [context]
  allocated := Nat.le_of_eq (by rw [context])
  output := ⟨[], by rw [List.append_nil, output]⟩

theorem GoesOn.refl (state : ExpansionState) : state.GoesOn state :=
  .same rfl rfl

theorem GoesOn.trans {first second third : ExpansionState}
    (earlier : first.GoesOn second) (later : second.GoesOn third) :
    first.GoesOn third where
  maxDepth := later.maxDepth.trans earlier.maxDepth
  checkTypes := later.checkTypes.trans earlier.checkTypes
  refusesRepeats := later.refusesRepeats.trans earlier.refusesRepeats
  stem := later.stem.trans earlier.stem
  allocated := Nat.le_trans earlier.allocated later.allocated
  output := earlier.output.trans later.output

/-- With no calls and no scopes before, there is nothing left to be reset. -/
theorem Restored.reset_eq {before after : ExpansionState}
    (restored : before.Restored after) (noCalls : before.context.calls = [])
    (noScopes : before.context.scopes = {}) :
    after.context.reset = after.context := by
  have calls : after.context.calls = [] := restored.calls.trans noCalls
  have scopes : after.context.scopes = {} := restored.scopes.trans noScopes
  rw [Context.reset, ← calls, ← scopes]

end ExpansionState

/-! ## Labels -/

namespace Placeholders

theorem labelFor_allocated_le (placeholders : Placeholders)
    (source : LabelSource) (placeholder : String) : source.allocated ≤
      (placeholders.labelFor source placeholder).2.2.allocated := by
  simp only [labelFor]
  split
  · exact Nat.le_refl _
  · exact Nat.le_succ _

mutual

theorem localize_allocated_le (placeholders : Placeholders)
    (source : LabelSource) :
    ∀ term, source.allocated ≤ (placeholders.localize source term).2.2.allocated
  | .blank placeholder => labelFor_allocated_le placeholders source placeholder
  | .list items => localizeList_allocated_le placeholders source items
  | .iri _ | .literal _ | .var _ | .none => Nat.le_refl _

theorem localizeList_allocated_le (placeholders : Placeholders)
    (source : LabelSource) :
    ∀ items, source.allocated ≤
      (placeholders.localizeList source items).2.2.allocated
  | [] => Nat.le_refl _
  | item :: items => by
      have first := localize_allocated_le placeholders source item
      have rest :=
        localizeList_allocated_le (placeholders.localize source item).2.1
          (placeholders.localize source item).2.2 items
      simp only [localizeList]
      exact Nat.le_trans first rest

end

end Placeholders

/-! ## Scopes -/

namespace ScopeArena

theorem release_eq_of_suffix {arena older : ScopeArena}
    (newer : older.scopes <:+ arena.scopes) :
    arena.release older.size = older := by
  obtain ⟨created, whole⟩ := newer
  have count : arena.size - older.size = created.length := by
    simp [size, ← whole]
  simp [release, count, ← whole]

end ScopeArena

namespace Expansion

/-- However the step ends, the context is restored.  The calls are so only if no
more than `room` further ones may become active. -/
structure Restoring (room : Nat) {α : Type} (step : Expansion α) : Prop where
  goesOn : ∀ state : ExpansionState, state.GoesOn (final (step state))
  scopes : ∀ state, (final (step state)).context.scopes = state.context.scopes
  calls : ∀ state, state.context.maxDepth ≤ state.context.depth + room →
    (final (step state)).context.calls = state.context.calls

namespace Restoring

variable {room : Nat} {α β : Type}

/-- A step that changes nothing but the labels, the output and the events. -/
theorem forwards {step : Expansion α}
    (goesOn : ∀ state : ExpansionState, state.GoesOn (final (step state)))
    (calls : ∀ state, (final (step state)).context.calls = state.context.calls)
    (scopes : ∀ state, (final (step state)).context.scopes =
      state.context.scopes) :
    Restoring room step :=
  ⟨goesOn, scopes, fun state _ => calls state⟩

theorem bind {step : Expansion α} {rest : α → Expansion β}
    (first : Restoring room step)
    (continues : ∀ value, Restoring room (rest value)) :
    Restoring room (step >>= rest) := by
  have ends (state : ExpansionState) :
      final ((step >>= rest) state) = final (step state) ∨
        ∃ value, final ((step >>= rest) state) =
          final (rest value (final (step state))) := by
    show final (EStateM.bind step rest state) = _ ∨
      ∃ value, final (EStateM.bind step rest state) = _
    simp only [EStateM.bind]
    cases step state with
    | ok value next => exact Or.inr ⟨value, rfl⟩
    | error failure next => exact Or.inl rfl
  constructor
  · intro state
    rcases ends state with failed | ⟨value, continued⟩
    · rw [failed]
      exact first.goesOn state
    · rw [continued]
      exact (first.goesOn state).trans ((continues value).goesOn _)
  · intro state
    rcases ends state with failed | ⟨value, continued⟩
    · rw [failed]
      exact first.scopes state
    · rw [continued, (continues value).scopes]
      exact first.scopes state
  · intro state bounded
    have sameCalls := first.calls state bounded
    rcases ends state with failed | ⟨value, continued⟩
    · rw [failed]
      exact sameCalls
    · have sameDepth :
          (final (step state)).context.depth = state.context.depth :=
        congrArg List.length sameCalls
      have sameLimit := (first.goesOn state).maxDepth
      rw [continued, (continues value).calls _ (by omega)]
      exact sameCalls

theorem pure (value : α) : Restoring room (Pure.pure value : Expansion α) :=
  forwards .refl (fun _ => rfl) fun _ => rfl

theorem fail (fault : Fault) : Restoring room (fail fault : Expansion α) :=
  forwards .refl (fun _ => rfl) fun _ => rfl

theorem record (event : Event) : Restoring room (record event) :=
  forwards (fun _ => .same rfl rfl) (fun _ => rfl) fun _ => rfl

theorem bodyTerm (scope : ScopeId) (placeholders : Placeholders) (term : Term) :
    Restoring room (bodyTerm scope placeholders term) := by
  have ends (state : ExpansionState) :
      final (Expansion.bodyTerm scope placeholders term state) =
        { state with
          context :=
            { state.context with
              labels :=
                (placeholders.localize state.context.labels term).2.2 } } := by
    simp only [Expansion.bodyTerm]
    split <;> rfl
  apply forwards
  · intro state
    rw [ends]
    exact ⟨rfl, rfl, rfl, placeholders.localize_stem state.context.labels term,
      placeholders.localize_allocated_le state.context.labels term,
      List.prefix_rfl⟩
  · intro state
    rw [ends]
  · intro state
    rw [ends]

theorem emit (triple : Triple) : Restoring room (emit triple) := by
  apply forwards _ (fun _ => rfl) fun _ => rfl
  intro state
  exact ⟨rfl, rfl, rfl, rfl, Nat.le_refl _, [triple],
    by simp [final, Expansion.emit]⟩

theorem freshBlank : Restoring room freshBlank := by
  apply forwards _ (fun _ => rfl) fun _ => rfl
  intro state
  exact ⟨rfl, rfl, rfl, rfl, Nat.le_succ _, List.prefix_rfl⟩

theorem writeTriple (subject predicate object : Term) :
    Restoring room (writeTriple subject predicate object) := by
  have emissive : Emissive (Restoring room) :=
    { pure, bind, emit, freshBlank, refuse _ _ _ := fail _, drop := record _ }
  exact emissive.writeTriple subject predicate object

end Restoring

/-! ## Scopes -/

/-- One state goes on from another in the same calls and with one more scope. -/
structure InNewScope (before after : ExpansionState) :
    Prop extends before.GoesOn after where
  calls : after.context.calls = before.context.calls
  scopes : ∃ scope, after.context.scopes.scopes =
    scope :: before.context.scopes.scopes

theorem bindName_newest {scope : Scope} {older : List Scope} (name : String)
    (value : Term) {state : ExpansionState}
    (scopes : state.context.scopes = ⟨scope :: older⟩) :
    (∃ filled, bindName older.length name value state =
      .ok () (state.withScopes ⟨filled :: older⟩)) ∨
      bindName older.length name value state =
        .error (state.context.fail (.duplicateBinding name)) state := by
  cases found : scope.bindings.lookup name with
  | none =>
      left
      refine ⟨{ scope with bindings := (name, value) :: scope.bindings }, ?_⟩
      rw [bindName, scopes, ScopeArena.bind_newest value found]
      rfl
  | some other =>
      right
      simp [bindName, scopes, ScopeArena.bind, ScopeArena.bindIn, found]

/-- Names are bound in the newest scope without a change of the older ones.
This fails only for a name that is bound already. -/
theorem bindNames_newest_cases {scope : Scope} {older : List Scope}
    (bindings : List (String × Term)) {state : ExpansionState}
    (scopes : state.context.scopes = ⟨scope :: older⟩) :
    ∃ filled, bindNames older.length bindings state =
        .ok () (state.withScopes ⟨filled :: older⟩) ∨
      ∃ name, bindNames older.length bindings state =
        .error (state.context.fail (.duplicateBinding name))
          (state.withScopes ⟨filled :: older⟩) := by
  have unchanged : state.withScopes ⟨scope :: older⟩ = state := by
    rw [← scopes]
    rfl
  induction bindings generalizing state scope with
  | nil => exact ⟨scope, Or.inl (by rw [unchanged]; rfl)⟩
  | cons binding bindings induction =>
      obtain ⟨name, value⟩ := binding
      simp only [bindNames, Bind.bind, EStateM.bind]
      rcases bindName_newest name value scopes with ⟨filled, bound⟩ | repeated
      · have inNewest : (state.withScopes ⟨filled :: older⟩).context.scopes =
            ⟨filled :: older⟩ :=
          rfl
        simp only [bound]
        exact induction inNewest rfl
      · simp only [repeated]
        exact ⟨scope, Or.inr ⟨name, by rw [unchanged]⟩⟩

theorem inNewScope_bindNames {before state : ExpansionState}
    (bindings : List (String × Term)) (inside : InNewScope before state) :
    InNewScope before
      (final (bindNames before.context.scopes.size bindings state)) := by
  obtain ⟨goesOn, calls, scope, live⟩ := inside
  have newest :
      state.context.scopes = ⟨scope :: before.context.scopes.scopes⟩ :=
    congrArg ScopeArena.mk live
  have stays (filled : Scope) : InNewScope before
      (state.withScopes ⟨filled :: before.context.scopes.scopes⟩) :=
    ⟨goesOn.trans (.same rfl rfl), calls, filled, rfl⟩
  rw [ScopeArena.size]
  obtain ⟨filled, bound | ⟨name, repeated⟩⟩ :=
    bindNames_newest_cases bindings newest
  · rw [bound]
    exact stays filled
  · rw [repeated]
    exact stays filled

theorem final_releasing {α : Type} (step : Expansion α)
    (state : ExpansionState) :
    final (releasing step state) =
      releaseScopes state.context.scopes.size (final (step state)) := by
  simp only [releasing]
  cases step state <;> rfl

/-- A step in a new scope starts with this scope, or not at all. -/
theorem final_inNewScope {α : Type} (parent : Option ScopeId)
    (bindings : List (String × Term)) (step : ScopeId → Expansion α)
    (state : ExpansionState) :
    ∃ filled, InNewScope state filled ∧
      (final ((do
          let scope ← pushScope parent
          bindNames scope bindings
          step scope : Expansion α) state) = filled ∨
        final ((do
          let scope ← pushScope parent
          bindNames scope bindings
          step scope : Expansion α) state) =
            final (step state.context.scopes.size filled)) := by
  let pushed : ExpansionState := final (pushScope parent state)
  have new : InNewScope state pushed := ⟨.same rfl rfl, rfl, _, rfl⟩
  refine ⟨final (bindNames state.context.scopes.size bindings pushed),
    inNewScope_bindNames bindings new, ?_⟩
  have runs : (do
      let scope ← pushScope parent
      bindNames scope bindings
      step scope : Expansion α) state =
        EStateM.bind (bindNames state.context.scopes.size bindings)
          (fun _ => step state.context.scopes.size) pushed := rfl
  rw [runs, EStateM.bind]
  cases bindNames state.context.scopes.size bindings pushed with
  | ok done filled => exact Or.inr rfl
  | error failure next => exact Or.inl rfl

theorem scopes_release {before after : ExpansionState}
    (newer : ∃ scope, after.context.scopes.scopes =
      scope :: before.context.scopes.scopes) :
    (releaseScopes before.context.scopes.size after).context.scopes =
      before.context.scopes := by
  obtain ⟨scope, live⟩ := newer
  exact ScopeArena.release_eq_of_suffix ⟨[scope], live.symm⟩

/-- A step in a new scope restores the context together with the scopes around
it, also if not all names can be bound. -/
theorem Restoring.inScope {room : Nat} (parent : Option ScopeId)
    (bindings : List (String × Term)) {step : ScopeId → Expansion Unit}
    (inside : ∀ scope, Restoring room (step scope)) :
    Restoring room (releasing do
      let scope ← pushScope parent
      bindNames scope bindings
      step scope) := by
  constructor
  · intro state
    obtain ⟨filled, inScope, ends | ends⟩ :=
      final_inNewScope parent bindings step state
    · rw [final_releasing, ends]
      exact inScope.toGoesOn.trans (.same rfl rfl)
    · rw [final_releasing, ends]
      have kept := (inside state.context.scopes.size).goesOn filled
      exact (inScope.toGoesOn.trans kept).trans (.same rfl rfl)
  · intro state
    obtain ⟨filled, inScope, ends | ends⟩ :=
      final_inNewScope parent bindings step state
    · rw [final_releasing, ends]
      exact scopes_release inScope.scopes
    · rw [final_releasing, ends]
      apply scopes_release
      rw [(inside state.context.scopes.size).scopes]
      exact inScope.scopes
  · intro state bounded
    obtain ⟨filled, inScope, ends | ends⟩ :=
      final_inNewScope parent bindings step state
    · rw [final_releasing, ends]
      exact inScope.calls
    · rw [final_releasing, ends]
      have sameDepth : filled.context.depth = state.context.depth :=
        congrArg List.length inScope.calls
      have sameLimit := inScope.maxDepth
      exact ((inside state.context.scopes.size).calls filled (by omega)).trans
        inScope.calls

theorem compositional_restoring (room : Nat) :
    Compositional (Restoring room) where
  pure := Restoring.pure
  bind := Restoring.bind
  fail := Restoring.fail
  context := Restoring.forwards .refl (fun _ => rfl) fun _ => rfl
  record := Restoring.record
  bodyTerm := Restoring.bodyTerm
  writeTriple := Restoring.writeTriple
  inScope := Restoring.inScope

/-! ## Calls -/

theorem enter_eq_ok {context active : Context} {call : Instance}
    (entered : context.enter call = .ok active) :
    active = { context with calls := call :: context.calls } := by
  simp only [Context.enter] at entered
  split at entered
  · cases entered
  · split at entered
    · cases entered
    · exact (Except.ok.inj entered).symm

theorem enter_eq_error_of_full {context : Context} (call : Instance)
    (full : context.maxDepth ≤ context.depth) :
    ∃ failure, context.enter call = .error failure := by
  simp only [Context.enter]
  split
  · exact ⟨_, rfl⟩
  · exact ⟨_, rfl⟩

/-- With no room left every call is refused, and nothing has happened. -/
theorem Restoring.enter_full (call : Instance) : Restoring 0 (enter call) := by
  constructor
  · intro state
    simp only [enter]
    cases entered : state.context.enter call with
    | error failure => exact .refl state
    | ok active =>
        obtain rfl := enter_eq_ok entered
        exact .same rfl rfl
  · intro state
    simp only [enter]
    cases entered : state.context.enter call with
    | error failure => rfl
    | ok active =>
        obtain rfl := enter_eq_ok entered
        rfl
  · intro state full
    obtain ⟨failure, refused⟩ := enter_eq_error_of_full call full
    simp only [enter, refused]
    rfl

theorem final_calling (call : Instance) (step : Expansion Unit)
    (state : ExpansionState) :
    final (calling call step state) = state ∨
      let active : ExpansionState :=
        { state with
          context :=
            { state.context with calls := call :: state.context.calls } }
      final (calling call step state) =
        { final (step active) with
          context := (final (step active)).context.leave } := by
  simp only [calling, enter]
  cases entered : state.context.enter call with
  | error failure => exact Or.inl rfl
  | ok active =>
      obtain rfl := enter_eq_ok entered
      right
      simp only
      split <;> rename_i ended <;> rw [ended] <;> rfl

theorem Restoring.calling {room : Nat} (call : Instance) {step : Expansion Unit}
    (inside : Restoring room step) :
    Restoring (room + 1) (calling call step) := by
  constructor
  · intro state
    rcases final_calling call step state with stays | ends
    · rw [stays]
      exact .refl state
    · rw [ends]
      have entered : state.GoesOn
          { state with
            context :=
              { state.context with calls := call :: state.context.calls } } :=
        .same rfl rfl
      exact (entered.trans (inside.goesOn _)).trans (.same rfl rfl)
  · intro state
    rcases final_calling call step state with stays | ends
    · rw [stays]
    · rw [ends]
      exact inside.scopes _
  · intro state bounded
    rcases final_calling call step state with stays | ends
    · rw [stays]
    · rw [ends]
      have activeCalls :=
        inside.calls
          { state with
            context :=
              { state.context with calls := call :: state.context.calls } }
          (by simp only [Context.depth, List.length_cons] at bounded ⊢; omega)
      exact congrArg List.tail activeCalls

/-- However the expansion of an instance ends, the context is restored. -/
theorem restoring_expandWithin (library : Library) (room : Nat)
    (inst : Instance) : Restoring room (expandWithin library room inst) := by
  induction room generalizing inst with
  | zero =>
      rw [expandWithin]
      split
      · exact (compositional_restoring 0).writeTripleInstance inst.arguments
      · exact Restoring.enter_full inst
  | succ room induction =>
      rw [expandWithin]
      split
      · exact (compositional_restoring (room + 1)).writeTripleInstance
          inst.arguments
      · exact Restoring.calling inst
          ((compositional_restoring room).expandCall induction library inst)

end Expansion

end RdfTemplates
