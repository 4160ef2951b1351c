import RdfTemplates.Proofs.Positions
import RdfTemplates.Proofs.Scopes.StackOrder

/-!
# Resolving terms

To resolve a term in a live scope is to replace all its variables at once, each
by the value that the nearest scope of the parent chain binds it to.  It fails
at the first variable that no scope of the chain binds.
-/

namespace RdfTemplates

namespace ScopeArena

variable {arena : ScopeArena} {id : ScopeId} {term : Term}

/-- The value of a name in the first scope of a chain that binds it. -/
def nearest? (arena : ScopeArena) (chain : List ScopeId) (name : String) :
    Option Term :=
  chain.findSome? (arena.bound? name)

theorem resolve_eq_ok_iff (live : arena.isLive id = true) {value : Term} :
    arena.resolve id term = .ok value ↔
      term.substitute (arena.lookup id) = .ok value := by
  rw [resolve, if_pos live]
  cases term.substitute (arena.lookup id) <;> simp

theorem resolve_eq_error_iff (live : arena.isLive id = true) {fault : Fault} :
    arena.resolve id term = .error fault ↔
      ∃ name, fault = .unboundVariable name ∧
        term.substitute (arena.lookup id) = .error name := by
  rw [resolve, if_pos live]
  cases term.substitute (arena.lookup id) <;> simp [eq_comm]

theorem isSome_nearest?_iff {chain : List ScopeId} {name : String} :
    (arena.nearest? chain name).isSome = true ↔
      ∃ member ∈ chain, (arena.bound? name member).isSome = true :=
  List.findSome?_isSome_iff

end ScopeArena

/-- In an arena where only live scopes have been named, a term can be resolved
exactly if each of its variables is bound in the scope or in an ancestor of it.
The value is the term with the nearest bindings put in as they are and nothing
else changed, and a failure names the first variable without one.  If all
bindings are ground, then so is the value.  A term is ground exactly if it has
no first variable. -/
theorem ScopeArena.resolve_simultaneous :
    (∀ requests, ScopeArena.allowsAll {} requests = true →
      let arena := ScopeArena.performAll {} requests
      ∀ id, arena.isLive id = true → ∃ chain, arena.ParentChain id chain ∧
        (∀ other, arena.ParentChain id other → other = chain) ∧
        ∀ term : Term,
          ((∃ value, arena.resolve id term = .ok value) ↔
            ∀ position name, term.at? position = some (.var name) →
              ∃ member ∈ chain, (arena.bound? name member).isSome = true) ∧
          (∀ value, arena.resolve id term = .ok value ↔
            term.ReplacedBy (arena.nearest? chain) value) ∧
          (∀ fault, arena.resolve id term = .error fault ↔
            ∃ name position, fault = .unboundVariable name ∧
              Term.IsFirstAt (fun name => (arena.nearest? chain name).isNone)
                term name position) ∧
          ((∀ member ∈ chain, ∀ name bound,
              arena.bound? name member = some bound → bound.isGround = true) →
            ∀ value, arena.resolve id term = .ok value →
              value.isGround = true)) ∧
    ∀ term : Term,
      (term.firstVariable? = none ↔ term.isGround = true) ∧
      (term.isGround = true ↔
        ∀ position name, term.at? position ≠ some (.var name)) ∧
      ∀ name, term.firstVariable? = some name ↔
        ∃ position, Term.IsFirstAt (fun _ => true) term name position := by
  constructor
  · intro requests allowed arena id live
    have descending : arena.Descending := descending_empty.performAll allowed
    obtain ⟨chain, goesOn⟩ := exists_parentChain descending live
    have nearest : arena.lookup id = arena.nearest? chain :=
      funext (goesOn.lookup_eq_findSome? descending)
    refine ⟨chain, goesOn, fun _ other => other.unique goesOn, ?_⟩
    intro term
    refine ⟨?_, ?_, ?_, ?_⟩
    · simp only [resolve_eq_ok_iff live, nearest, ← isSome_nearest?_iff]
      exact Term.exists_substitute_iff
    · intro value
      rw [resolve_eq_ok_iff live, nearest, Term.substitute_eq_ok_iff]
    · intro fault
      simp only [resolve_eq_error_iff live, nearest,
        Term.substitute_eq_error_iff_isFirstAt, exists_and_left]
    · intro ground value done
      rw [resolve_eq_ok_iff live, nearest] at done
      apply Term.isGround_of_substitute done
      intro name bound found
      obtain ⟨member, inChain, here⟩ := List.exists_of_findSome?_eq_some found
      exact ground member inChain name bound here
  · intro term
    refine ⟨?_, ?_, ?_⟩
    · rw [Term.firstVariable?_eq_head?, Term.isGround_iff,
        List.head?_eq_none_iff]
    · exact Term.isGround_iff_forall_at?
    · intro name
      exact Term.firstVariable?_eq_some_iff

/-- A binding that hides another, a value that is a variable itself, and
variables without a value, in scopes one of which takes the place of a released
one. -/
theorem ScopeArena.resolve_simultaneous_hidden :
    let requests : List ScopeRequest :=
      [.push none, .bind 0 "x" (.var "y"), .bind 0 "y" (.iri "a"),
        .push (some 0), .release 1, .push (some 0), .bind 1 "y" (.iri "b"),
        .push none, .bind 2 "z" (.iri "c")]
    let arena := ScopeArena.performAll {} requests
    let term : Term := .list [.var "y", .list [.var "x", .blank "n", .none]]
    let value : Term := .list [.iri "b", .list [.var "y", .blank "n", .none]]
    let unresolved : Term :=
      .list [.list [], .list [.var "y", .var "z"], .var "w"]
    ScopeArena.allowsAll {} requests = true ∧
      (arena.isLive 1 = true ∧
        ∃ chain, arena.ParentChain 1 chain ∧ arena.resolve 1 term = .ok value ∧
          term.ReplacedBy (arena.nearest? chain) value ∧
          (∃ member ∈ chain, (arena.bound? "x" member).isSome = true) ∧
          ∃ position, Term.IsFirstAt (fun name =>
            (arena.nearest? chain name).isNone) unresolved "z" position) ∧
      (arena.isLive 2 = true ∧ arena.ParentChain 2 [2] ∧
        (∀ member ∈ [2], ∀ name bound, arena.bound? name member = some bound →
          bound.isGround = true) ∧
        ∃ result, arena.resolve 2 (.list [.var "z"]) = .ok result ∧
          result.isGround = true) := by
  intro requests arena term value unresolved
  have allowed : ScopeArena.allowsAll {} requests = true := by decide +kernel
  refine ⟨allowed, ⟨by decide +kernel, ?_⟩, ⟨by decide +kernel, ?_⟩⟩
  · obtain ⟨chain, goesOn, _, resolves⟩ :=
      resolve_simultaneous.1 requests allowed 1 (by decide +kernel)
    obtain ⟨succeeds, replaced, _, _⟩ := resolves term
    obtain ⟨_, _, fails, _⟩ := resolves unresolved
    have resolved : arena.resolve 1 term = .ok value := by decide +kernel
    obtain ⟨name, position, isFault, isFirst⟩ :=
      (fails (.unboundVariable "z")).mp (by decide +kernel)
    cases isFault
    exact ⟨chain, goesOn, resolved, (replaced value).mp resolved,
      succeeds.mp ⟨value, resolved⟩ [1, 0] "x" (by decide +kernel),
      position, isFirst⟩
  · obtain ⟨chain, goesOn, only, resolves⟩ :=
      resolve_simultaneous.1 requests allowed 2 (by decide +kernel)
    have found : arena.scope? 2 = some { bindings := [("z", .iri "c")] } := by
      decide +kernel
    have alone : [2] = chain := only [2] (.root found rfl)
    subst alone
    have ground : ∀ member ∈ [2], ∀ name bound,
        arena.bound? name member = some bound → bound.isGround = true := by
      intro member isTwo name bound isBound
      rw [List.mem_singleton.mp isTwo, bound?, found, Option.bind_some]
        at isBound
      obtain ⟨before, after, pairs, _⟩ := List.lookup_eq_some_iff.mp isBound
      have isPair : (name, bound) ∈ before ++ (name, bound) :: after := by simp
      rw [← pairs] at isPair
      cases List.mem_singleton.mp isPair
      rfl
    have resolved :
        arena.resolve 2 (.list [.var "z"]) = .ok (.list [.iri "c"]) := by
      decide +kernel
    exact ⟨goesOn, ground, _, resolved, (resolves _).2.2.2 ground _ resolved⟩

end RdfTemplates
