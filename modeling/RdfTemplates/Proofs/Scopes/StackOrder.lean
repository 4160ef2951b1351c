import RdfTemplates.Proofs.Scopes.Arena

/-!
# Scopes in stack order

Scopes are created, bound in and released one request after the other.  As long
as only live scopes are named, every parent stays older than its scope.  What
happens above a mark leaves no trace once the arena is released to the mark.
-/

namespace RdfTemplates

/-- What may be asked of an arena. -/
inductive ScopeRequest where
  | push (parent : Option ScopeId)
  | bind (id : ScopeId) (name : String) (value : Term)
  | mark
  | release (mark : Nat)
  deriving DecidableEq

/-- Whether a request leaves the `mark` oldest scopes as they are. -/
def ScopeRequest.isAbove (mark : Nat) : ScopeRequest → Bool
  | .push _ | .mark => true
  | .bind id _ _ => mark ≤ id
  | .release other => mark ≤ other

namespace ScopeArena

/-- Whether all scopes that a request names are live. -/
def allows (arena : ScopeArena) : ScopeRequest → Bool
  | .push parent => parent.all arena.isLive
  | .bind id _ _ => arena.isLive id
  | .mark | .release _ => true

/-- The arena after a request.  To mark it does not change it. -/
def perform (arena : ScopeArena) : ScopeRequest → ScopeArena
  | .push parent => (arena.push parent).2
  | .bind id name value =>
      match arena.bind id name value with
      | .ok next => next
      | .error _ => arena
  | .mark => arena
  | .release mark => arena.release mark

def performAll (arena : ScopeArena) (requests : List ScopeRequest) :
    ScopeArena :=
  requests.foldl perform arena

/-- Whether requests name only scopes that are live at that time. -/
def allowsAll (arena : ScopeArena) : List ScopeRequest → Bool
  | [] => true
  | request :: requests =>
      arena.allows request && (arena.perform request).allowsAll requests

/-! ## Bindings -/

section Bindings

variable {arena : ScopeArena} {id : ScopeId} {name : String} {value : Term}

/-- How a binding in an arena ends. -/
theorem bindIn_cases (id : ScopeId) (name : String) (value : Term)
    (scopes : List Scope) :
    (scopes.length ≤ id ∧
      bindIn id name value scopes = .error (.deadScope id)) ∨
      ∃ scope, scope? ⟨scopes⟩ id = some scope ∧
        (((scope.bindings.lookup name).isSome = true ∧
          bindIn id name value scopes = .error (.duplicateBinding name)) ∨
          (scope.bindings.lookup name = none ∧
            ∃ bound, bindIn id name value scopes = .ok bound)) := by
  induction scopes with
  | nil => exact Or.inl ⟨Nat.zero_le id, rfl⟩
  | cons newest older induction =>
      by_cases isNewest : id = older.length
      · right
        subst isNewest
        refine ⟨newest, scope?_newest newest older, ?_⟩
        cases found : newest.bindings.lookup name with
        | some other => exact Or.inl ⟨rfl, by simp [bindIn, found]⟩
        | none =>
            have added : bindIn older.length name value (newest :: older) =
                .ok ({ newest with
                       bindings := (name, value) :: newest.bindings } ::
                  older) := by
              simp [bindIn, found]
            exact Or.inr ⟨rfl, _, added⟩
      · have further : bindIn id name value (newest :: older) =
            (bindIn id name value older).map (newest :: ·) := by
          rw [bindIn, if_neg isNewest]
          cases bindIn id name value older <;> rfl
        rcases induction with ⟨dead, ends⟩ | ⟨scope, found, ends⟩
        · left
          rw [further, ends]
          exact ⟨Nat.lt_of_le_of_ne dead (Ne.symm isNewest), rfl⟩
        · right
          have sameScope : scope? ⟨newest :: older⟩ id = scope? ⟨older⟩ id :=
            scope?_of_suffix (List.suffix_cons newest older)
              (isLive_of_scope? found)
          refine ⟨scope, sameScope.trans found, ?_⟩
          rcases ends with ⟨isBound, ends⟩ | ⟨unbound, bound, ends⟩
          · exact Or.inl ⟨isBound, by rw [further, ends]; rfl⟩
          · exact Or.inr ⟨unbound, newest :: bound, by rw [further, ends]; rfl⟩

theorem bind_eq_error_iff {fault : Fault} :
    arena.bind id name value = .error fault ↔
      (arena.isLive id = false ∧ fault = .deadScope id) ∨
        ((arena.bound? name id).isSome = true ∧
          fault = .duplicateBinding name) := by
  rcases bindIn_cases id name value arena.scopes with ⟨dead, ends⟩ |
    ⟨scope, found, ends⟩
  · have notLive : arena.isLive id = false :=
      Bool.eq_false_iff.mpr (mt isLive_iff.mp (Nat.not_lt.mpr dead))
    have unbound : arena.bound? name id = none := by
      cases found : arena.scope? id with
      | none => rw [bound?, found, Option.bind_none]
      | some scope =>
          rw [isLive_of_scope? found] at notLive
          cases notLive
    simp only [bind, ends, notLive, unbound, Except.error.injEq]
    simp [eq_comm]
  · have live : arena.isLive id = true := isLive_of_scope? found
    have here : arena.bound? name id = scope.bindings.lookup name := by
      rw [bound?, show arena.scope? id = _ from found, Option.bind_some]
    rcases ends with ⟨isBound, ends⟩ | ⟨unbound, bound, ends⟩
    · simp only [bind, ends, live, here, isBound, Except.error.injEq]
      simp [eq_comm]
    · simp [bind, ends, live, here, unbound]

theorem bind_eq_deadScope_iff :
    arena.bind id name value = .error (.deadScope id) ↔
      arena.isLive id = false := by
  simp [bind_eq_error_iff]

theorem resolve_eq_deadScope_iff {term : Term} :
    arena.resolve id term = .error (.deadScope id) ↔
      arena.isLive id = false := by
  rw [resolve]
  split
  · rename_i live
    rw [live]
    split <;> simp
  · rename_i dead
    simpa using dead

end Bindings

/-! ## Requests -/

section Requests

variable {arena older : ScopeArena}

/-- The scopes below a mark stay as they are. -/
theorem suffix_bindIn {id : ScopeId} {name : String} {value : Term}
    {scopes bound : List Scope}
    (added : bindIn id name value scopes = .ok bound)
    (newer : older.scopes <:+ scopes) (above : older.scopes.length ≤ id) :
    older.scopes <:+ bound := by
  induction scopes generalizing bound with
  | nil => cases added
  | cons newest rest induction =>
      simp only [bindIn] at added
      rcases List.suffix_cons_iff.mp newer with whole | inRest
      · -- A scope that is not among the older ones cannot be bound in.
        rcases bindIn_cases id name value rest with ⟨_, ends⟩ |
          ⟨scope, found, _⟩
        · have notNewest : id ≠ rest.length := by
            rintro rfl
            rw [whole, List.length_cons] at above
            omega
          rw [if_neg notNewest, ends] at added
          cases added
        · have bound := isLive_iff.mp (isLive_of_scope? found)
          rw [whole, List.length_cons] at above
          exact absurd (Nat.lt_trans (Nat.lt_of_succ_le above) bound)
            (Nat.lt_irrefl _)
      · split at added
        · split at added
          · cases added
          · cases added
            exact inRest.trans (List.suffix_cons _ _)
        · split at added
          · rename_i restBound restAdded
            cases added
            exact (induction restAdded inRest).trans (List.suffix_cons _ _)
          · cases added

theorem suffix_perform {request : ScopeRequest}
    (newer : older.scopes <:+ arena.scopes)
    (above : request.isAbove older.size = true) :
    older.scopes <:+ (arena.perform request).scopes := by
  cases request with
  | push parent => exact newer.trans (List.suffix_cons _ _)
  | mark => exact newer
  | bind id name value =>
      simp only [perform, ScopeArena.bind]
      cases added : bindIn id name value arena.scopes with
      | error fault => exact newer
      | ok bound => exact suffix_bindIn added newer (of_decide_eq_true above)
  | release mark =>
      have kept : older.scopes.length ≤ (arena.release mark).scopes.length := by
        have atLeast : older.scopes.length ≤ mark := of_decide_eq_true above
        have whole := newer.length_le
        simp only [release, size, List.length_drop]
        omega
      exact List.suffix_of_suffix_length_le newer (List.drop_suffix _ _) kept

/-- Whatever happens above a mark, the scopes below it stay as they are. -/
theorem suffix_performAll {requests : List ScopeRequest}
    (newer : older.scopes <:+ arena.scopes)
    (above : requests.all (·.isAbove older.size) = true) :
    older.scopes <:+ (arena.performAll requests).scopes := by
  induction requests generalizing arena with
  | nil => exact newer
  | cons request requests induction =>
      rw [List.all_cons, Bool.and_eq_true] at above
      exact induction (suffix_perform newer above.1) above.2

theorem Descending.perform (descending : arena.Descending)
    {request : ScopeRequest} (allowed : arena.allows request = true) :
    (arena.perform request).Descending := by
  cases request with
  | push parent =>
      apply descending.push
      intro id isParent
      rwa [isParent] at allowed
  | mark => exact descending
  | bind id name value =>
      simp only [ScopeArena.perform]
      cases bound : arena.bind id name value with
      | error fault => exact descending
      | ok next => exact descending.bind bound
  | release mark => exact descending.of_suffix (List.drop_suffix _ _)

theorem Descending.performAll (descending : arena.Descending)
    {requests : List ScopeRequest} (allowed : arena.allowsAll requests = true) :
    (arena.performAll requests).Descending := by
  induction requests generalizing arena with
  | nil => exact descending
  | cons request requests induction =>
      rw [allowsAll, Bool.and_eq_true] at allowed
      exact induction (descending.perform allowed.1) allowed.2

end Requests

end ScopeArena

end RdfTemplates
