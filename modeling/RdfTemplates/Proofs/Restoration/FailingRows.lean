import RdfTemplates.Proofs.Agreement
import RdfTemplates.Proofs.Restoration.Steps

/-!
# Rows that fail

A row that fails may drop its scope at once or leave it behind.  The call around
it drops the scope of the defaults in any case, and with that every scope
created later.  So an expansion whose failing rows leave their scopes behind is
the same expansion.
-/

namespace RdfTemplates

namespace ScopeArena

theorem release_release {mark later : Nat} (arena : ScopeArena)
    (older : mark ≤ later) :
    (arena.release later).release mark = arena.release mark := by
  simp only [release, size, List.length_drop, List.drop_drop, mk.injEq]
  congr 1
  omega

theorem length_bindIn {id : ScopeId} {name : String} {value : Term}
    {scopes bound : List Scope}
    (added : bindIn id name value scopes = .ok bound) :
    bound.length = scopes.length := by
  induction scopes generalizing bound with
  | nil => cases added
  | cons scope older induction =>
      simp only [bindIn] at added
      split at added
      · split at added
        · cases added
        · cases added
          rfl
      · split at added
        · rename_i olderAdded
          cases added
          simp [induction olderAdded]
        · cases added

end ScopeArena

namespace Expansion

/-- Runs a step and drops the scopes it has created if it succeeds.  A step that
fails leaves them to what is around it. -/
def releasingOnSuccess {α : Type} (step : Expansion α) : Expansion α :=
  fun state =>
  let mark := state.context.scopes.size
  match step state with
  | .ok value state => .ok value (releaseScopes mark state)
  | .error failure state => .error failure state

/-! ## Expansion that leaves the scopes of failing rows -/

namespace LeavingScopes

def expandRow (expand : Instance → Expansion Unit) (template : Template)
    (defaults : ScopeId) (row : List Term) : Expansion Unit :=
  let parameters := template.signature.parameters
  let row := fillRow parameters row
  match missingParameter? parameters row with
  | some parameter => record (.repetitionSkipped template.name parameter.name)
  | none =>
      releasingOnSuccess do
        let scope ← pushScope (some defaults)
        bindNames scope (rowBindings parameters row)
        walkBody expand scope {} template.body

def expandEachRow (expand : Instance → Expansion Unit) (template : Template)
    (defaults : ScopeId) : List (List Term) → Expansion Unit
  | [] => pure ()
  | row :: rows => do
      expandRow expand template defaults row
      expandEachRow expand template defaults rows

def expandCall (library : Library) (expand : Instance → Expansion Unit)
    (call : Instance) : Expansion Unit := do
  let template ← check (library.lookup call.template)
  let parameters := template.signature.parameters
  match ← check (bindArguments template.signature call.arguments) with
  | none => record (.instanceSkipped call.template)
  | some values => do
      let present ← context
      check (checkArguments call.template present.checkTypes parameters values)
      let rows ← check (expandRows call.template parameters values)
      record (.instanceExpanding call.template rows.length present.depth)
      releasing do
        let defaults ← pushScope none
        bindNames defaults (defaultBindings parameters)
        expandEachRow expand template defaults rows

def expandWithin (library : Library) (room : Nat) (inst : Instance) :
    Expansion Unit :=
  if inst.template == Vocabulary.ottrTriple then
    writeTripleInstance inst.arguments
  else
    match room with
    | 0 => enter inst
    | room + 1 =>
        calling inst (expandCall library (expandWithin library room) inst)

def expandInstance (library : Library) (inst : Instance) : Expansion Unit := do
  let present ← context
  expandWithin library (present.maxDepth - present.depth) inst

end LeavingScopes

/-- Steps that end alike, but that after a failure there may be other scopes
besides the `mark` oldest ones. -/
def unwinding (mark : Nat) : Comparison ExpansionState ExpansionState where
  states left right := left = right ∧ mark ≤ left.context.scopes.size
  leftExcused _ := False
  rightExcused _ := False
  failures left leftState right rightState :=
    left = right ∧ releaseScopes mark leftState = releaseScopes mark rightState

section Unwinding

variable {mark room : Nat} {α : Type}

theorem unwinding_same {step : Expansion α}
    (keeps : ∀ state, state.context.scopes.size ≤
      (final (step state)).context.scopes.size) :
    (unwinding mark).Agree Eq step step := by
  intro state other same
  obtain ⟨rfl, marked⟩ := same
  have kept := keeps state
  cases ended : step state with
  | ok value next =>
      rw [ended] at kept
      exact ⟨rfl, rfl, Nat.le_trans marked kept⟩
  | error failure next => exact Or.inr (Or.inr ⟨rfl, rfl⟩)

theorem size_bindName (scope : ScopeId) (name : String) (value : Term)
    (state : ExpansionState) :
    (final (bindName scope name value state)).context.scopes.size =
      state.context.scopes.size := by
  simp only [bindName, ScopeArena.bind]
  cases added :
    ScopeArena.bindIn scope name value state.context.scopes.scopes with
  | ok scopes => exact ScopeArena.length_bindIn added
  | error fault => rfl

theorem size_bindNames (scope : ScopeId) (bindings : List (String × Term))
    (state : ExpansionState) :
    (final (bindNames scope bindings state)).context.scopes.size =
      state.context.scopes.size := by
  induction bindings generalizing state with
  | nil => rfl
  | cons binding bindings induction =>
      obtain ⟨name, value⟩ := binding
      have first := size_bindName scope name value state
      simp only [bindNames, Bind.bind, EStateM.bind]
      cases ended : bindName scope name value state with
      | ok done next =>
          rw [ended] at first
          exact (induction next).trans first
      | error failure next =>
          rw [ended] at first
          exact first

/-- What is around a step drops all scopes that it may have left. -/
theorem releasing_eq_of_unwinding {left right : Expansion α}
    (agree : ∀ mark, (unwinding mark).Agree Eq left right) :
    releasing left = releasing right := by
  funext state
  have results :=
    agree state.context.scopes.size state state ⟨rfl, Nat.le_refl _⟩
  simp only [releasing]
  rcases results.outcomes (fun _ => ⟨id, id⟩) with
    ⟨value, last, _, _, leftEnd, rightEnd, rfl, rfl, _⟩ |
    ⟨failure, leftLast, _, rightLast, leftEnd, rightEnd, rfl, released⟩
  · simp only [leftEnd, rightEnd]
  · simp only [leftEnd, rightEnd, released]

/-- A step that leaves its scopes after a failure, beside one that drops
them. -/
theorem unwinding_releasing {step : Expansion Unit}
    (restoring : Restoring room (releasing step)) :
    (unwinding mark).Agree Eq (releasingOnSuccess step) (releasing step) := by
  intro state other same
  obtain ⟨rfl, marked⟩ := same
  have scopes := restoring.scopes state
  rw [final_releasing] at scopes
  simp only [releasingOnSuccess, releasing]
  cases ended : step state with
  | ok value next =>
      rw [ended] at scopes
      exact ⟨rfl, rfl, Nat.le_trans marked
        (Nat.le_of_eq (congrArg ScopeArena.size scopes).symm)⟩
  | error failure next =>
      refine Or.inr (Or.inr ⟨rfl, ?_⟩)
      simp only [releaseScopes,
        ScopeArena.release_release next.context.scopes marked]

variable {expand : Instance → Expansion Unit}
  (nested : ∀ inst, Restoring room (expand inst))

include nested

theorem unwinding_expandRow (template : Template) (defaults : ScopeId)
    (row : List Term) :
    (unwinding mark).Agree Eq
      (LeavingScopes.expandRow expand template defaults row)
      (expandRow expand template defaults row) := by
  have restoring :=
    (compositional_restoring room).expandRow nested template defaults row
  simp only [expandRow] at restoring ⊢
  simp only [LeavingScopes.expandRow]
  cases missing : missingParameter? template.signature.parameters
      (fillRow template.signature.parameters row) with
  | some parameter => exact unwinding_same fun _ => Nat.le_refl _
  | none =>
      rw [missing] at restoring
      exact unwinding_releasing restoring

theorem unwinding_expandEachRow (template : Template) (defaults : ScopeId)
    (rows : List (List Term)) :
    (unwinding mark).Agree Eq
      (LeavingScopes.expandEachRow expand template defaults rows)
      (expandEachRow expand template defaults rows) := by
  induction rows with
  | nil => exact .pure rfl
  | cons row rows induction =>
      apply (unwinding_expandRow nested template defaults row).bind
      intro _ _ _
      exact induction

theorem leavingScopes_rows (template : Template) (rows : List (List Term)) :
    (releasing do
      let defaults ← pushScope none
      bindNames defaults (defaultBindings template.signature.parameters)
      LeavingScopes.expandEachRow expand template defaults rows) =
    (releasing do
      let defaults ← pushScope none
      bindNames defaults (defaultBindings template.signature.parameters)
      expandEachRow expand template defaults rows) := by
  apply releasing_eq_of_unwinding
  intro mark
  have pushed : (unwinding mark).Agree Eq (pushScope none) (pushScope none) :=
    unwinding_same fun _ => Nat.le_succ _
  apply pushed.bind
  intro defaults _ same
  cases same
  have bound : (unwinding mark).Agree Eq
      (bindNames defaults (defaultBindings template.signature.parameters))
      (bindNames defaults (defaultBindings template.signature.parameters)) :=
    unwinding_same fun state =>
      Nat.le_of_eq (size_bindNames defaults _ state).symm
  apply bound.bind
  intro _ _ _
  exact unwinding_expandEachRow nested template defaults rows

theorem leavingScopes_expandCall (library : Library) (call : Instance) :
    LeavingScopes.expandCall library expand call =
      expandCall library expand call := by
  simp only [expandCall, ← leavingScopes_rows nested]
  rfl

end Unwinding

theorem leavingScopes_expandWithin (library : Library) (room : Nat)
    (inst : Instance) :
    LeavingScopes.expandWithin library room inst =
      expandWithin library room inst := by
  induction room generalizing inst with
  | zero => rw [LeavingScopes.expandWithin, expandWithin]
  | succ room induction =>
      have nested :
          LeavingScopes.expandWithin library room = expandWithin library room :=
        funext induction
      rw [LeavingScopes.expandWithin, expandWithin, nested,
        leavingScopes_expandCall (restoring_expandWithin library room)]

/-- Whether a failing row drops its scope makes no difference to any
expansion. -/
theorem leavingScopes_expandInstance (library : Library) (inst : Instance) :
    LeavingScopes.expandInstance library inst =
      expandInstance library inst := by
  simp only [LeavingScopes.expandInstance, expandInstance,
    leavingScopes_expandWithin]

end Expansion

end RdfTemplates
