import RdfTemplates.Proofs.Checks
import RdfTemplates.Proofs.Contract
import RdfTemplates.Proofs.Restoration.Roots
import RdfTemplates.Proofs.Scopes.StackOrder

/-!
# Live scopes in expansions

An expansion names a scope only while it runs in it, and whatever it creates
further inside is dropped before it comes back to the scope.  So it never names
a scope that is gone, and a name is bound twice only where a template declares
it twice.
-/

namespace RdfTemplates

/-- The only fault of naming that is admitted is that a name is bound twice, and
only if some template declares a name twice. -/
def Library.Admits (library : Library) (fault : Fault) : Prop :=
  fault.kind = .naming →
    ∃ template ∈ library.templates, ¬ template.signature.parameterNames.Nodup ∧
      ∃ name, fault = .duplicateBinding name

theorem Library.admits_of_kind {library : Library} {fault : Fault}
    (kind : FaultKind) (isKind : fault.kind = kind) (other : kind ≠ .naming) :
    library.Admits fault := by
  intro naming
  exact absurd (isKind.symm.trans naming) other

namespace Expansion

/-- What is asked of steps between which the arena stays the same. -/
def inArena (library : Library) (arena : ScopeArena) :
    Contract ExpansionState where
  states state := state.context.scopes = arena
  failures failure _ := library.Admits failure.fault

/-- The step leaves the arena as it is, and all its scopes are live when it
names them. -/
def KeepsArena (library : Library) (arena : ScopeArena) {α : Type}
    (step : Expansion α) : Prop :=
  (inArena library arena).MetBy (fun _ => True) step

section Steps

variable {library : Library} {arena : ScopeArena}

theorem sequential_keepsArena : Sequential (KeepsArena library arena) where
  pure _ := Contract.MetBy.pure trivial
  bind first continues :=
    Contract.MetBy.bind first fun value _ => continues value

theorem keepsArena_fail {α : Type} {fault : Fault}
    (admitted : library.Admits fault) :
    KeepsArena library arena (fail fault : Expansion α) :=
  fun _ _ => admitted

theorem keepsArena_record (event : Event) :
    KeepsArena library arena (record event) :=
  fun _ inside => ⟨trivial, inside⟩

theorem emissive_keepsArena : Emissive (KeepsArena library arena) where
  toSequential := sequential_keepsArena
  refuse _ _ _ :=
    keepsArena_fail (Library.admits_of_kind .triple rfl (by decide))
  drop := keepsArena_record .tripleDropped
  emit _ := fun _ inside => ⟨trivial, inside⟩
  freshBlank := fun _ inside => ⟨trivial, inside⟩

theorem keepsArena_bodyTerm {scope : ScopeId} (live : arena.isLive scope = true)
    (placeholders : Placeholders) (term : Term) :
    KeepsArena library arena (bodyTerm scope placeholders term) := by
  intro state inside
  simp only [bodyTerm, ScopeArena.resolve]
  rw [show state.context.scopes = arena from inside, live]
  cases (placeholders.localize state.context.labels term).1.substitute
    (arena.lookup scope) with
  | ok value => exact ⟨trivial, rfl⟩
  | error name => exact Library.admits_of_kind .definition rfl (by decide)

theorem walking_keepsArena {scope : ScopeId}
    (live : arena.isLive scope = true) :
    Walking (KeepsArena library arena) scope where
  toSequential := sequential_keepsArena
  bodyTerm := keepsArena_bodyTerm live
  writeTriple := emissive_keepsArena.writeTriple

/-- What follows a check may make use of its result. -/
theorem keepsArena_bindCheck {α β : Type} {checked : Except Fault α}
    {rest : α → Expansion β}
    (admitted : ∀ fault, checked = .error fault → library.Admits fault)
    (continues : ∀ value, checked = .ok value →
      KeepsArena library arena (rest value)) :
    KeepsArena library arena (check checked >>= rest) := by
  cases result : checked with
  | ok value => exact continues value result
  | error fault => exact fun _ _ => admitted fault result

theorem admits_of_enter {context : Context} {call : Instance}
    {failure : Failure} (refused : context.enter call = .error failure) :
    library.Admits failure.fault := by
  simp only [Context.enter] at refused
  split at refused
  · cases refused
    exact Library.admits_of_kind .call rfl (by decide)
  · split at refused
    · cases refused
      exact Library.admits_of_kind .call rfl (by decide)
    · cases refused

theorem keepsArena_calling (call : Instance) {step : Expansion Unit}
    (inside : KeepsArena library arena step) :
    KeepsArena library arena (calling call step) := by
  intro state here
  simp only [calling, enter]
  cases entered : state.context.enter call with
  | error failure => exact admits_of_enter entered
  | ok active =>
      obtain rfl := enter_eq_ok entered
      have result := inside
        { state with
          context :=
            { state.context with calls := call :: state.context.calls } } here
      simp only
      split <;> rename_i ended <;> rw [ended] at result <;> exact result

theorem keepsArena_enter (call : Instance) :
    KeepsArena library arena (enter call) := by
  intro state here
  simp only [enter]
  cases entered : state.context.enter call with
  | error failure => exact admits_of_enter entered
  | ok active =>
      obtain rfl := enter_eq_ok entered
      exact ⟨trivial, here⟩

end Steps

/-! ## New scopes -/

/-- A step in a new scope for the parameters of a template leaves the scopes
around it as they are. -/
theorem keepsArena_inScope {library : Library} {arena : ScopeArena}
    {template : Template} (member : template ∈ library.templates)
    (parent : Option ScopeId) {bindings : List (String × Term)}
    (declared :
      (bindings.map Prod.fst).Sublist template.signature.parameterNames)
    {step : ScopeId → Expansion Unit}
    (inside : ∀ scope,
      KeepsArena library ⟨scope :: arena.scopes⟩ (step arena.size)) :
    KeepsArena library arena (releasing do
      let scope ← pushScope parent
      bindNames scope bindings
      step scope) := by
  intro state here
  let pushed := state.withScopes ⟨{ parent } :: arena.scopes⟩
  have runs : (do
      let scope ← pushScope parent
      bindNames scope bindings
      step scope : Expansion Unit) state =
        EStateM.bind (bindNames arena.size bindings)
          (fun _ => step arena.size) pushed := by
    simp only [Bind.bind, EStateM.bind, pushScope_eq here]
    rfl
  rw [releasing, runs, EStateM.bind,
    show state.context.scopes = arena from here]
  obtain ⟨filled, bound | ⟨name, repeated⟩⟩ :=
    bindNames_newest_cases bindings (show pushed.context.scopes = _ from rfl)
  · have boundHere : bindNames arena.size bindings pushed = _ := bound
    have result :=
      inside filled (pushed.withScopes ⟨filled :: arena.scopes⟩) rfl
    rw [boundHere]
    dsimp only
    cases ended :
      step arena.size (pushed.withScopes ⟨filled :: arena.scopes⟩) with
    | ok value next =>
        rw [ended] at result
        have newest : next.context.scopes = ⟨filled :: arena.scopes⟩ := result.2
        refine ⟨trivial, ?_⟩
        show next.context.scopes.release arena.size = arena
        rw [newest]
        exact ScopeArena.release_eq_of_suffix
          (List.suffix_cons filled arena.scopes)
    | error failure next =>
        rw [ended] at result
        exact result
  · have repeatedHere : bindNames arena.size bindings pushed = _ := repeated
    rw [repeatedHere]
    intro _
    refine ⟨template, member, ?_, name, rfl⟩
    -- With distinct parameters no name could have been bound before.
    intro distinct
    rw [bindNames_pushed (distinct.sublist declared) state arena parent]
      at repeatedHere
    cases repeatedHere

/-! ## Calls -/

section Calls

variable {library : Library} {expand : Instance → Expansion Unit}
  (nested : ∀ arena inst, KeepsArena library arena (expand inst))

include nested

theorem keepsArena_expandRow {arena : ScopeArena} {template : Template}
    (member : template ∈ library.templates) (defaults : ScopeId)
    (row : List Term) :
    KeepsArena library arena (expandRow expand template defaults row) := by
  simp only [expandRow]
  split
  · exact keepsArena_record _
  · apply keepsArena_inScope member _ (fst_rowBindings_sublist _ _)
    intro scope
    have live : ScopeArena.isLive ⟨scope :: arena.scopes⟩ arena.size = true :=
      ScopeArena.isLive_iff.mpr (Nat.lt_succ_self _)
    exact (walking_keepsArena live).walkBody (nested _) {} template.body

theorem keepsArena_expandEachRow {arena : ScopeArena} {template : Template}
    (member : template ∈ library.templates) (defaults : ScopeId)
    (rows : List (List Term)) :
    KeepsArena library arena (expandEachRow expand template defaults rows) := by
  induction rows with
  | nil => exact sequential_keepsArena.pure ()
  | cons row rows induction =>
      rw [expandEachRow]
      apply sequential_keepsArena.bind
        (keepsArena_expandRow nested member defaults row)
      intro _
      exact induction

theorem keepsArena_expandCall (arena : ScopeArena) (call : Instance) :
    KeepsArena library arena (expandCall library expand call) := by
  simp only [expandCall]
  apply keepsArena_bindCheck
  · intro fault absent
    rw [Library.lookup_eq_error absent]
    exact Library.admits_of_kind .definition rfl (by decide)
  intro template found
  have member := Library.mem_templates_of_lookup found
  apply keepsArena_bindCheck
  · intro fault failed
    exact Library.admits_of_kind .definition (bindArguments_kind failed)
      (by decide)
  intro filled _
  cases filled with
  | none => exact keepsArena_record _
  | some values =>
      have looks :
          KeepsArena library arena context := fun _ inside => ⟨trivial, inside⟩
      apply sequential_keepsArena.bind looks
      intro present
      apply keepsArena_bindCheck
      · intro fault failed
        exact Library.admits_of_kind .argument (checkArguments_kind failed)
          (by decide)
      intro _ _
      apply keepsArena_bindCheck
      · intro fault failed
        exact Library.admits_of_kind .argument (expandRows_kind failed)
          (by decide)
      intro rows _
      apply sequential_keepsArena.bind (keepsArena_record _)
      intro _
      apply keepsArena_inScope member _ (fst_defaultBindings_sublist _)
      intro scope
      exact keepsArena_expandEachRow nested member _ rows

end Calls

theorem keepsArena_writeTripleInstance {library : Library} {arena : ScopeArena}
    (arguments : List Term) :
    KeepsArena library arena (writeTripleInstance arguments) := by
  simp only [writeTripleInstance]
  split
  · exact emissive_keepsArena.writeTriple _ _ _
  · exact keepsArena_fail (Library.admits_of_kind .definition rfl (by decide))

/-- Whatever scopes are live, an expansion keeps them and fails only by admitted
faults. -/
theorem keepsArena_expandWithin (library : Library) (room : Nat)
    (arena : ScopeArena) (inst : Instance) :
    KeepsArena library arena (expandWithin library room inst) := by
  induction room generalizing arena inst with
  | zero =>
      rw [expandWithin]
      split
      · exact keepsArena_writeTripleInstance _
      · exact keepsArena_enter inst
  | succ room induction =>
      rw [expandWithin]
      split
      · exact keepsArena_writeTripleInstance _
      · exact keepsArena_calling inst
          (keepsArena_expandCall induction arena inst)

theorem admits_of_expandInstance {library : Library} {inst : Instance}
    {state last : ExpansionState} {failure : Failure}
    (failed : expandInstance library inst state = .error failure last) :
    library.Admits failure.fault := by
  have failedWithin : expandWithin library
      (state.context.maxDepth - state.context.depth) inst state =
      .error failure last := failed
  have result := keepsArena_expandWithin library
    (state.context.maxDepth - state.context.depth) state.context.scopes inst
    state rfl
  rw [failedWithin] at result
  exact result

theorem admits_of_expandRoot {library : Library} {root : Instance}
    {state last : ExpansionState} {failure : Failure}
    (failed : expandRoot library root state = .error failure last) :
    library.Admits failure.fault := by
  obtain ⟨fault, isKind, refused⟩ | ⟨name, collects⟩ :=
    expandRoot_cases library root
  · rw [refused] at failed
    cases failed
    exact Library.admits_of_kind .definition isKind (by decide)
  · rw [collects] at failed
    simp only [collecting] at failed
    split at failed
    · cases failed
    · rename_i stepFailed
      cases failed
      exact admits_of_expandInstance stepFailed

theorem not_deadScope_of_admits {library : Library} {fault : Fault}
    (admitted : library.Admits fault) (id : ScopeId) :
    fault ≠ .deadScope id := by
  intro dead
  subst dead
  obtain ⟨_, _, _, name, isDuplicate⟩ := admitted rfl
  cases isDuplicate

/-- In an arena where only live scopes have been named, every parent is older
than its scope.  A lookup follows the parents to the nearest scope that binds
the name, and what happens above a mark is undone by a release to it.  A binding
that fails changes nothing, and a scope that is not live is refused.  This never
happens in an expansion, whatever the library, and nothing in it goes on after a
failure: so all scopes that it names are live. -/
theorem scopes_inStackOrder :
    (∀ requests, ScopeArena.allowsAll {} requests = true →
      let arena := ScopeArena.performAll {} requests
      arena.Descending ∧
      (∀ id, arena.isLive id = true → ∃ chain, arena.ParentChain id chain ∧
        (∀ other, arena.ParentChain id other → other = chain) ∧
        chain.Pairwise (· > ·) ∧
        (∀ member ∈ chain, arena.isLive member = true) ∧
        ∀ name, arena.lookup id name = chain.findSome? (arena.bound? name)) ∧
      ∀ later : List ScopeRequest, later.all (·.isAbove arena.size) = true →
        (∀ id name, arena.isLive id = true →
          (arena.performAll later).lookup id name = arena.lookup id name) ∧
        (arena.performAll later).release arena.size = arena) ∧
    (∀ (arena : ScopeArena) (id : ScopeId) (name : String) (value : Term),
      (arena.bind id name value = .error (.deadScope id) ↔
        arena.isLive id = false) ∧
      (∀ term, arena.resolve id term = .error (.deadScope id) ↔
        arena.isLive id = false) ∧
      (arena.isLive id = true →
        ((∃ fault, arena.bind id name value = .error fault) ↔
          (arena.bound? name id).isSome = true)) ∧
      ∀ fault, arena.bind id name value = .error fault →
        arena.perform (.bind id name value) = arena ∧
        ∀ state : ExpansionState, state.context.scopes = arena →
          bindName id name value state =
            .error (state.context.fail fault) state) ∧
    ∀ (library : Library) (root : Instance) (state last : ExpansionState)
      (failure : Failure),
      (expandInstance library root state = .error failure last ∨
        expandRoot library root state = .error failure last) →
      ∀ id, failure.fault ≠ .deadScope id := by
  refine ⟨?_, ?_, ?_⟩
  · intro requests allowed arena
    have descending :
        arena.Descending := ScopeArena.descending_empty.performAll allowed
    refine ⟨descending, ?_, ?_⟩
    · intro id live
      obtain ⟨chain, goesOn⟩ := ScopeArena.exists_parentChain descending live
      exact ⟨chain, goesOn, fun _ other => other.unique goesOn,
        goesOn.pairwise descending, goesOn.isLive,
        goesOn.lookup_eq_findSome? descending⟩
    · intro later above
      have newer : arena.scopes <:+ (arena.performAll later).scopes :=
        ScopeArena.suffix_performAll List.suffix_rfl above
      constructor
      · intro id name live
        exact ScopeArena.lookup_of_suffix newer live name
      · exact ScopeArena.release_eq_of_suffix newer
  · intro arena id name value
    refine ⟨ScopeArena.bind_eq_deadScope_iff,
      fun _ => ScopeArena.resolve_eq_deadScope_iff, ?_, ?_⟩
    · intro live
      simp [ScopeArena.bind_eq_error_iff, live]
    · intro fault failed
      constructor
      · simp only [ScopeArena.perform, failed]
      · intro state here
        simp only [bindName, here, failed]
  · intro library root state last failure failed id
    rcases failed with ofInstance | ofRoot
    · exact not_deadScope_of_admits (admits_of_expandInstance ofInstance) id
    · exact not_deadScope_of_admits (admits_of_expandRoot ofRoot) id

/-- A scope in the place of a released one, and a root that fails inside two
calls. -/
theorem scopes_inStackOrder_reused :
    let requests : List ScopeRequest :=
      [.push none, .bind 0 "x" (.iri "a"), .push (some 0),
        .bind 1 "x" (.iri "b"), .bind 1 "x" (.iri "c"), .release 1,
        .push (some 0), .mark]
    let later : List ScopeRequest :=
      [.push (some 1), .bind 2 "x" (.iri "d"), .release 2, .push none]
    let arena := ScopeArena.performAll {} requests
    let failure : Failure :=
      { fault := .blankNodeNotAllowed "Note" "about" (.blank "b_0")
        calls := [⟨"Note", [.blank "b_0"]⟩, ⟨"Stub", []⟩] }
    (∃ chain, arena.ParentChain 1 chain ∧ chain.Pairwise (· > ·) ∧
      chain.findSome? (arena.bound? "x") = some (.iri "a")) ∧
    (arena.performAll later).lookup 1 "x" = some (.iri "a") ∧
    (arena.performAll later).release 2 = arena ∧
    arena.bind 3 "x" (.iri "e") = .error (.deadScope 3) ∧
    ∃ last, expandRoot noteLibrary stubRoot
      { context := .ofOptions { blankStem := some "b" } 0 } =
      .error failure last ∧
      ∀ id, failure.fault ≠ .deadScope id := by
  intro requests later arena failure
  obtain ⟨reached, bindings, expansions⟩ := scopes_inStackOrder
  obtain ⟨_, chains, restored⟩ := reached requests (by decide +kernel)
  obtain ⟨chain, goesOn, _, descends, _, found⟩ := chains 1 (by decide +kernel)
  obtain ⟨unchanged, released⟩ := restored later (by decide +kernel)
  have bound : arena.lookup 1 "x" = some (.iri "a") := by decide +kernel
  have failed : (outcome noteLibrary (.ofOptions { blankStem := some "b" } 0)
      stubRoot).result =
      .error failure := by
    decide +kernel
  obtain ⟨last, ended⟩ := exists_error_of_outcome failed
  refine ⟨⟨chain, goesOn, descends, ?_⟩, ?_, released, ?_, last, ended, ?_⟩
  · rw [← found, bound]
  · rw [unchanged 1 "x" (by decide +kernel), bound]
  · exact (bindings arena 3 "x" (.iri "e")).1.mpr (by decide +kernel)
  · exact expansions noteLibrary stubRoot _ last failure (Or.inr ended)

end Expansion

end RdfTemplates
