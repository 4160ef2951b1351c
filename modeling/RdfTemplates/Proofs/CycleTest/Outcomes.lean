import RdfTemplates.Proofs.CycleTest.Exhaustion
import RdfTemplates.Proofs.Direct.Refinement

/-!
# Outcomes without the cycle test

The cycle test refuses only what could never be expanded, and changes no other
outcome.
-/

namespace RdfTemplates

/-- The context in which only the depth limit ends a circular expansion. -/
def Context.untested (context : Context) : Context :=
  { context with refusesRepeats := false }

namespace Direct

/-- Runs that are identical until a repeated call is refused. -/
def Correspondence.identical (stem : String) : Correspondence where
  leftStem := stem
  rightStem := stem
  labels := Eq
  counts := Eq
  fresh := by
    rintro count _ rfl
    rfl
  next := by
    rintro count _ rfl
    rfl
  outputs := Eq
  emitted := by
    rintro triples _ left right rfl matching
    rw [matching.eq_of_eq]
  leftExcused failure := ∃ repeated, failure.fault = .cyclicExpansion repeated
  rightExcused _ := False
  failures := Eq

theorem eq_of_identical {stem : String} {leftExcused : Failure → Prop}
    {left right : Outcome}
    (outcomes : ({ Correspondence.identical stem with leftExcused } :
      Correspondence).Outcomes
      left right)
    (unexcused : ∀ failure, left.result = .error failure →
      ¬leftExcused failure) :
    right = left := by
  cases outcomes with
  | succeed triples counts =>
      cases triples
      cases counts
      rfl
  | fail failures counts =>
      cases failures
      cases counts
      rfl
  | leftExcused excused => exact absurd excused (unexcused _ rfl)
  | rightExcused impossible => exact False.elim impossible

theorem eq_of_all_match {lefts rights : List Instance}
    (matching : List.Forall₂ (Instance.Matches Eq) lefts rights) :
    lefts = rights := by
  induction matching with
  | nil => rfl
  | cons head _ induction => rw [head.eq_of_eq, induction]

theorem identical_lockstep (setting : Setting) :
    (Correspondence.identical setting.stem).Lockstep setting
      setting.unguarded where
  leftStem := rfl
  rightStem := rfl
  library := rfl
  checkTypes := rfl
  defaults _ _ _ _ _ _ := Term.matches_self fun _ _ => rfl
  maxDepth := rfl
  answered := by
    intro leftCalls rightCalls calls leftFault rightFault faults
    apply Or.inr
    apply Or.inr
    rw [faults.eq_of_eq, eq_of_all_match calls]
    rfl
  refuses := by
    intro leftCalls rightCalls calls leftInst rightInst matching
    cases refused : setting.refuses leftCalls leftInst with
    | true => exact Or.inr ⟨rfl, leftInst, rfl⟩
    | false => exact Or.inl rfl

/-- Without the cycle test, all outcomes are the same but those that it
causes. -/
theorem outcome_unguarded (setting : Setting) (root : Instance)
    (allocated : Nat)
    (unrepeated : ∀ repeated calls, (outcome setting root allocated).result ≠
      .error ⟨.cyclicExpansion repeated, calls⟩) :
    outcome setting.unguarded root allocated =
      outcome setting root allocated := by
  have rootMatches :
      root.Matches Eq root := Instance.matches_self fun _ _ => rfl
  have agree := (identical_lockstep setting).expandRoot rootMatches
  apply eq_of_identical
    (Correspondence.outcomes_of_agree agree rfl allocated allocated rfl)
  intro failure failed ⟨repeated, isRepeated⟩
  apply unrepeated repeated failure.calls
  rw [failed, ← isRepeated]

end Direct

/-- The cycle test refuses only roots that no depth limit would ever let
through, and changes no other outcome. -/
theorem Expansion.outcome_untested (library : Library) (built : library.Built)
    (options : Options) (random : Nat) (root : Instance) :
    (∀ repeated calls,
      (outcome library (.ofOptions options random) root).result =
        .error ⟨.cyclicExpansion repeated, calls⟩ →
        ∀ maxDepth otherRandom, ∃ active, (outcome library
          (Context.ofOptions { options with maxDepth } otherRandom).untested
          root).result =
          .error ⟨.depthExceeded maxDepth, active⟩) ∧
      ((∀ repeated calls,
        (outcome library (.ofOptions options random) root).result ≠
          .error ⟨.cyclicExpansion repeated, calls⟩) →
        outcome library (Context.ofOptions options random).untested root =
          outcome library (.ofOptions options random) root) := by
  let guarded : Direct.Setting := .ofOptions library options random
  have tested : outcome library (.ofOptions options random) root =
      Direct.outcome guarded root 0 :=
    Direct.outcome_eq guarded built root 0
  rw [tested]
  constructor
  · intro repeated calls refused maxDepth otherRandom
    let free : Direct.Setting :=
      (Direct.Setting.ofOptions library { options with maxDepth }
        otherRandom).unguarded
    have untested : free.Untested guarded := ⟨rfl, rfl, rfl⟩
    have direct : outcome library
        (Context.ofOptions { options with maxDepth } otherRandom).untested
        root =
        Direct.outcome free root 0 :=
      Direct.outcome_eq free built root 0
    obtain ⟨trail, ended⟩ := Direct.expandRoot_eq_error refused
    obtain ⟨active, last, stopped⟩ :=
      Direct.expandRoot_stopsAt untested ended {}
    refine ⟨active, ?_⟩
    rw [direct, Direct.outcome, stopped]
    rfl
  · intro unrepeated
    have direct :
        outcome library (Context.ofOptions options random).untested root =
          Direct.outcome guarded.unguarded root 0 :=
      Direct.outcome_eq guarded.unguarded built root 0
    rw [direct]
    exact Direct.outcome_unguarded guarded root 0 unrepeated

/-- Two templates that call each other with an argument that stays the same, or
is a fresh node each time. -/
def turnTemplates : List Template :=
  [ { signature := { name := "Even", parameters := [{ name := "of" }] }
      body := [.nested "Odd" [.term (.var "of")]] },
    { signature := { name := "Odd", parameters := [{ name := "of" }] }
      body :=
        [ .triple ⟨.blank "turn", .iri "of", .var "of"⟩,
          .nested "Even" [.term (.var "of")] ] },
    { signature := { name := "Chain", parameters := [{ name := "of" }] }
      body := [.nested "Chain" [.term (.blank "link")]] } ]

def turnLibrary : Library :=
  { templates := turnTemplates }

theorem turnLibrary_built : turnLibrary.Built := by
  have accepted : Library.ofTemplates turnTemplates = .ok turnLibrary := rfl
  exact Library.built_of_ofTemplates accepted

theorem Expansion.outcome_turns :
    turnLibrary.Built ∧
      (outcome turnLibrary (.ofOptions { blankStem := some "b" } 0)
        ⟨"Even", [.iri "p"]⟩).result =
        .error { fault := .cyclicExpansion ⟨"Even", [.iri "p"]⟩
                 calls := [⟨"Odd", [.iri "p"]⟩, ⟨"Even", [.iri "p"]⟩] } ∧
      (∀ maxDepth random, ∃ active, (outcome turnLibrary
        (Context.ofOptions { maxDepth, blankStem := some "b" } random).untested
        ⟨"Even", [.iri "p"]⟩).result =
        .error ⟨.depthExceeded maxDepth, active⟩) ∧
      (outcome turnLibrary
        (.ofOptions { maxDepth := 2, blankStem := some "b" } 0)
        ⟨"Chain", [.iri "p"]⟩).result =
        .error { fault := .depthExceeded 2
                 calls := [⟨"Chain", [.blank "b_0"]⟩, ⟨"Chain", [.iri "p"]⟩] } ∧
      outcome turnLibrary
        (Context.ofOptions { maxDepth := 2, blankStem := some "b" } 0).untested
        ⟨"Chain", [.iri "p"]⟩ =
        outcome turnLibrary
          (.ofOptions { maxDepth := 2, blankStem := some "b" } 0)
          ⟨"Chain", [.iri "p"]⟩ := by
  have refused : (outcome turnLibrary (.ofOptions { blankStem := some "b" } 0)
      ⟨"Even", [.iri "p"]⟩).result =
        .error
          { fault := .cyclicExpansion ⟨"Even", [.iri "p"]⟩
            calls := [⟨"Odd", [.iri "p"]⟩, ⟨"Even", [.iri "p"]⟩] } := by
    decide +kernel
  have exhausted : (outcome turnLibrary
      (.ofOptions { maxDepth := 2, blankStem := some "b" } 0)
      ⟨"Chain", [.iri "p"]⟩).result =
      .error
        { fault := .depthExceeded 2
          calls := [⟨"Chain", [.blank "b_0"]⟩, ⟨"Chain", [.iri "p"]⟩] } := by
    decide +kernel
  have even := outcome_untested turnLibrary turnLibrary_built
    { blankStem := some "b" } 0 ⟨"Even", [.iri "p"]⟩
  have chain := outcome_untested turnLibrary turnLibrary_built
    { maxDepth := 2, blankStem := some "b" } 0 ⟨"Chain", [.iri "p"]⟩
  refine ⟨turnLibrary_built, refused, even.1 _ _ refused, exhausted, chain.2 ?_⟩
  intro repeated calls isRepeated
  rw [exhausted] at isRepeated
  cases isRepeated

end RdfTemplates
