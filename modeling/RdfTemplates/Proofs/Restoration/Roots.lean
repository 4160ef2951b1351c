import RdfTemplates.Mapping
import RdfTemplates.Proofs.Outcome
import RdfTemplates.Proofs.Restoration.FailingRows

/-!
# Restoration by roots

The expansion of an instance or of a root restores its context in every state.
In a mapping, which starts without calls and scopes, there is nothing to be
reset after a root, also if it has failed.
-/

namespace RdfTemplates

namespace Expansion

theorem restored_expandInstance (library : Library) (inst : Instance)
    (state : ExpansionState) :
    state.Restored (final (expandInstance library inst state)) := by
  let room : Nat := state.context.maxDepth - state.context.depth
  have restoring := restoring_expandWithin library room inst
  have bounded : state.context.maxDepth ≤ state.context.depth + room := by omega
  exact ⟨restoring.goesOn state, restoring.calls state bounded,
    restoring.scopes state⟩

theorem restored_collecting {step : Expansion Unit} {state : ExpansionState}
    (inside : ({ state with output := #[] } : ExpansionState).Restored
      (final (step { state with output := #[] }))) :
    state.Restored (final (collecting step state)) := by
  have ends : final (collecting step state) =
      { final (step { state with output := #[] }) with
        output := state.output } := by
    simp only [collecting]
    cases step { state with output := #[] } <;> rfl
  obtain ⟨⟨maxDepth, checkTypes, refusesRepeats, stem, allocated, _⟩, calls,
    scopes⟩ := inside
  rw [ends]
  exact ⟨⟨maxDepth, checkTypes, refusesRepeats, stem, allocated,
    List.prefix_rfl⟩, calls, scopes⟩

theorem restored_expandRoot (library : Library) (root : Instance)
    (state : ExpansionState) :
    state.Restored (final (expandRoot library root state)) := by
  obtain ⟨fault, _, refused⟩ | ⟨name, collects⟩ := expandRoot_cases library root
  · rw [refused]
    exact ⟨.refl state, rfl, rfl⟩
  · rw [collects]
    apply restored_collecting
    exact restored_expandInstance library { root with template := name } _

end Expansion

/-- Between the roots of a run no call is active and no scope is live. -/
def MappingProgress.Idle {σ : Type} (progress : MappingProgress σ) : Prop :=
  progress.state.context.calls = [] ∧ progress.state.context.scopes = {}

namespace MappingProgress

variable {σ : Type} [TripleSink σ]

theorem Idle.step {library : Library} {progress : MappingProgress σ}
    (idle : progress.Idle) (root : Instance) :
    (progress.step library root).Idle := by
  obtain ⟨noCalls, noScopes⟩ := idle
  have restored := Expansion.restored_expandRoot library root progress.state
  simp only [MappingProgress.step]
  cases ended : Expansion.expandRoot library root progress.state with
  | ok triples state =>
      rw [ended] at restored
      exact ⟨restored.calls.trans noCalls, restored.scopes.trans noScopes⟩
  | error failure state => exact ⟨rfl, rfl⟩

theorem idle_foldl (library : Library) (roots : List Instance)
    {progress : MappingProgress σ} (idle : progress.Idle) :
    (roots.foldl (MappingProgress.step library) progress).Idle := by
  induction roots generalizing progress with
  | nil => exact idle
  | cons root roots induction => exact induction (idle.step root)

end MappingProgress

/-- Whatever calls are active and whatever scopes are live, an expansion
restores them, however it ends and whether or not a failing row drops its scope.
So after a root that was started without calls and scopes, as in a mapping, a
reset changes nothing. -/
theorem Expansion.context_restored (library : Library) :
    (∀ (inst : Instance) (state : ExpansionState),
      state.Restored (final (expandInstance library inst state))) ∧
    (∀ inst : Instance,
      LeavingScopes.expandInstance library inst = expandInstance library inst) ∧
    (∀ (root : Instance) (state : ExpansionState),
      state.Restored (final (expandRoot library root state)) ∧
        (state.context.calls = [] → state.context.scopes = {} →
          (final (expandRoot library root state)).context.reset =
            (final (expandRoot library root state)).context)) ∧
    ∀ (σ : Type) [TripleSink σ] (options : Options) (random : Nat)
      (earlier : List Instance) (root : Instance) (sink : σ),
      let progress := earlier.foldl (MappingProgress.step library)
        ((Mapping.mk library options random).start sink)
      (final (expandRoot library root progress.state)).context.reset =
        (final (expandRoot library root progress.state)).context := by
  refine ⟨restored_expandInstance library, leavingScopes_expandInstance library,
    ?_, ?_⟩
  · intro root state
    have restored := restored_expandRoot library root state
    exact ⟨restored, restored.reset_eq⟩
  · intro σ _ options random earlier root sink progress
    have started : ((Mapping.mk library options random).start sink).Idle :=
      ⟨rfl, rfl⟩
    obtain ⟨noCalls, noScopes⟩ :=
      MappingProgress.idle_foldl library earlier started
    exact (restored_expandRoot library root progress.state).reset_eq
      noCalls noScopes

/-- A call around the stub, with a scope and a triple of its own. -/
def busyState : ExpansionState where
  context :=
    { labels := { stem := "b", allocated := 4 }
      scopes := ⟨[{ bindings := [("about", .iri "p")] }]⟩
      calls := [⟨"Page", [.iri "p"]⟩]
      maxDepth := 3 }
  output := #[⟨.iri "p", .iri "is", .string "busy"⟩]

theorem Expansion.context_restored_stub :
    busyState.Restored (final (expandInstance noteLibrary stubRoot busyState)) ∧
      (final (expandInstance noteLibrary stubRoot busyState)).context =
        { busyState.context with labels := { stem := "b", allocated := 5 } } ∧
      (outcome noteLibrary (.ofOptions { blankStem := some "b" } 0)
        stubRoot).result =
        .error { fault := .blankNodeNotAllowed "Note" "about" (.blank "b_0")
                 calls := [⟨"Note", [.blank "b_0"]⟩, ⟨"Stub", []⟩] } ∧
      (final (expandRoot noteLibrary stubRoot
        { context := .ofOptions { blankStem := some "b" } 0 })).context.reset =
        (final (expandRoot noteLibrary stubRoot
          { context := .ofOptions { blankStem := some "b" } 0 })).context := by
  obtain ⟨instances, _, roots, _⟩ := context_restored noteLibrary
  refine ⟨instances stubRoot busyState, by decide +kernel,
    by decide +kernel, ?_⟩
  exact (roots stubRoot _).2 rfl rfl

end RdfTemplates
