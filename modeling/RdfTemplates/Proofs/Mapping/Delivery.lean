import RdfTemplates.Proofs.Events
import RdfTemplates.Proofs.Mapping.Independence
import RdfTemplates.Proofs.Restoration.Roots

/-!
# Delivery of triples

Every root of a mapping is attempted, with labels that follow those of the roots
before it.  The triples of the roots that succeed go to the destination, root by
root, and the others are reported.  Neither depends on the destination.
-/

namespace RdfTemplates

/-- The context after labels have been used. -/
def Context.withUsed (context : Context) (allocated : Nat) : Context :=
  { context with labels := { context.labels with allocated } }

/-- What comes of roots that are expanded one after the other. -/
def Expansion.attempts (library : Library) (context : Context) :
    List Instance → List Outcome
  | [] => []
  | root :: roots =>
      let outcome := outcome library context root
      outcome :: attempts library (context.withUsed outcome.allocated) roots

def Mapping.attempts (mapping : Mapping) (roots : List Instance) :
    List Outcome :=
  Expansion.attempts mapping.library
    (.ofOptions mapping.options mapping.random) roots

/-- The triples of a root that has succeeded. -/
def Outcome.delivery? (outcome : Outcome) : Option (List Triple) :=
  outcome.result.toOption

/-- What is reported of roots that stand behind so many others. -/
def rootFailures (earlier : Nat) (roots : List Instance)
    (attempts : List Outcome) : List RootFailure :=
  ((roots.zip attempts).zipIdx earlier).filterMap
    fun ((root, outcome), index) =>
    outcome.rootFailure? index root.template

/-! ## Attempts -/

theorem Expansion.length_attempts (library : Library) (context : Context)
    (roots : List Instance) :
    (attempts library context roots).length = roots.length := by
  induction roots generalizing context with
  | nil => rfl
  | cons root roots induction => simp [attempts, induction]

theorem deliveries_cons (outcome : Outcome) (attempts : List Outcome) :
    (outcome :: attempts).filterMap Outcome.delivery? =
      outcome.delivery?.toList ++ attempts.filterMap Outcome.delivery? := by
  cases delivered : outcome.delivery? with
  | none => rw [List.filterMap_cons_none delivered, Option.toList_none,
      List.nil_append]
  | some triples =>
      rw [List.filterMap_cons_some delivered, Option.toList_some,
        List.singleton_append]

/-- A root that has failed delivers nothing. -/
theorem flatten_deliveries (attempts : List Outcome) :
    (attempts.filterMap Outcome.delivery?).flatten =
      attempts.flatMap Outcome.triples := by
  induction attempts with
  | nil => rfl
  | cons outcome attempts induction =>
      have own : outcome.delivery?.toList.flatten = outcome.triples := by
        simp only [Outcome.delivery?, Outcome.triples]
        cases outcome.result with
        | ok triples => exact List.append_nil triples
        | error failure => rfl
      rw [deliveries_cons, List.flatten_append, own, induction,
        List.flatMap_cons]

theorem rootFailures_cons (earlier : Nat) (root : Instance)
    (roots : List Instance) (outcome : Outcome) (attempts : List Outcome) :
    rootFailures earlier (root :: roots) (outcome :: attempts) =
      (outcome.rootFailure? earlier root.template).toList ++
        rootFailures (earlier + 1) roots attempts := by
  simp only [rootFailures, List.zip_cons_cons, List.zipIdx_cons,
    List.filterMap_cons]
  cases outcome.rootFailure? earlier root.template <;> rfl

theorem rootFailure?_eq_some {outcome : Outcome} {index : Nat}
    {template : String} {failed : RootFailure}
    (reported : outcome.rootFailure? index template = some failed) :
    outcome.result = .error failed.failure ∧ failed.index = index ∧
      failed.template = template := by
  unfold Outcome.rootFailure? at reported
  split at reported
  · cases reported
  · rename_i isError
    cases reported
    exact ⟨isError, rfl, rfl⟩

theorem mem_rootFailures {roots : List Instance} {attempts : List Outcome}
    {failed : RootFailure} (member : failed ∈ rootFailures 0 roots attempts) :
    ∃ root outcome, roots[failed.index]? = some root ∧
      attempts[failed.index]? = some outcome ∧ failed.template = root.template ∧
      outcome.result = .error failed.failure := by
  obtain ⟨⟨⟨root, outcome⟩, index⟩, inside, reported⟩ :=
    List.mem_filterMap.mp member
  have both :=
    List.getElem?_zip_eq_some.mp (List.mem_zipIdx_iff_getElem?.mp inside)
  obtain ⟨isError, rfl, isTemplate⟩ := rootFailure?_eq_some reported
  exact ⟨root, outcome, both.1, both.2, isTemplate, isError⟩

theorem pairwise_rootFailures (earlier : Nat) (roots : List Instance)
    (attempts : List Outcome) :
    (rootFailures earlier roots attempts).Pairwise fun first second =>
      first.index < second.index := by
  have indices :
      ((roots.zip attempts).zipIdx earlier).Pairwise fun first second =>
      first.2 < second.2 := by
    have ascending :
        (List.range' earlier (roots.zip attempts).length).Pairwise (· < ·) :=
      List.pairwise_lt_range' 1
    rw [← List.zipIdx_map_snd] at ascending
    exact List.pairwise_map.mp ascending
  apply indices.filterMap
  intro first second before failed firstReported laterFailed secondReported
  obtain ⟨_, firstIndex, _⟩ := rootFailure?_eq_some firstReported
  obtain ⟨_, secondIndex, _⟩ := rootFailure?_eq_some secondReported
  rw [firstIndex, secondIndex]
  exact before

/-! ## The run -/

theorem ExpansionState.Restored.context_eq {before after : ExpansionState}
    (restored : before.Restored after) :
    after.context = before.context.withUsed after.context.labels.allocated := by
  obtain ⟨⟨maxDepth, checkTypes, refusesRepeats, stem, _, _⟩, calls, scopes⟩ :=
    restored
  simp only [Context.withUsed, ← maxDepth, ← checkTypes, ← refusesRepeats,
    ← stem, ← calls, ← scopes]

namespace MappingProgress

variable {σ : Type} [TripleSink σ]

theorem step_eq (library : Library) {progress : MappingProgress σ}
    (idle : progress.Idle) (root : Instance) :
    let outcome := Expansion.outcome library progress.state.context root
    let next := progress.step library root
    next.state.context = progress.state.context.withUsed outcome.allocated ∧
      next.sink =
        outcome.delivery?.toList.foldl TripleSink.insertAll progress.sink ∧
      next.failures.toList =
        progress.failures.toList ++
          (outcome.rootFailure? progress.roots root.template).toList ∧
      next.roots = progress.roots + 1 := by
  have restored := Expansion.restored_expandRoot library root progress.state
  rcases Expansion.expandRoot_outcome library root progress.state with
    ⟨triples, last, ended, outcome⟩ | ⟨failure, last, ended, outcome⟩
  · rw [ended] at restored
    simp only [step, ended, outcome]
    refine ⟨restored.context_eq, rfl, ?_, trivial⟩
    simp [Outcome.rootFailure?]
  · rw [ended] at restored
    simp only [step, ended, outcome]
    refine ⟨?_, rfl, ?_, trivial⟩
    · exact (restored.reset_eq idle.1 idle.2).trans restored.context_eq
    · simp [Outcome.rootFailure?]

/-- After any number of roots, the destination has the triples of those that
have succeeded, and the others are reported. -/
theorem foldl_step (library : Library) (roots : List Instance)
    {progress : MappingProgress σ} (idle : progress.Idle) :
    (roots.foldl (step library) progress).sink =
      ((Expansion.attempts library progress.state.context roots).filterMap
        Outcome.delivery?).foldl TripleSink.insertAll progress.sink ∧
      (roots.foldl (step library) progress).failures.toList =
        progress.failures.toList ++ rootFailures progress.roots roots
          (Expansion.attempts library progress.state.context roots) := by
  induction roots generalizing progress with
  | nil => exact ⟨rfl, (List.append_nil _).symm⟩
  | cons root roots induction =>
      obtain ⟨context, sink, failures, count⟩ := step_eq library idle root
      obtain ⟨restSink, restFailures⟩ := induction (idle.step root)
      rw [context] at restSink restFailures
      rw [List.foldl_cons, Expansion.attempts, deliveries_cons,
        rootFailures_cons]
      constructor
      · rw [restSink, sink, List.foldl_append]
      · rw [restFailures, failures, count, List.append_assoc]

end MappingProgress

namespace Mapping

variable (mapping : Mapping) (roots : List Instance)

theorem expandInto_eq {σ : Type} [TripleSink σ] (sink : σ) :
    (mapping.expandInto roots sink).sink =
      ((mapping.attempts roots).filterMap Outcome.delivery?).foldl
        TripleSink.insertAll sink ∧
      (mapping.expandInto roots sink).failures =
        rootFailures 0 roots (mapping.attempts roots) := by
  have idle : (mapping.start sink).Idle := ⟨rfl, rfl⟩
  exact MappingProgress.foldl_step mapping.library roots idle

theorem toList_foldl_insertAll (deliveries : List (List Triple))
    (sink : Array Triple) :
    (deliveries.foldl TripleSink.insertAll sink).toList =
      sink.toList ++ deliveries.flatten := by
  induction deliveries generalizing sink with
  | nil => simp
  | cons delivery deliveries induction =>
      rw [List.foldl_cons, induction, List.flatten_cons, ← List.append_assoc]
      simp [TripleSink.insertAll]

theorem expand_eq :
    mapping.expand roots =
      { triples := (mapping.attempts roots).flatMap Outcome.triples
        failures := rootFailures 0 roots (mapping.attempts roots)
        roots := roots.length } := by
  obtain ⟨sink, failures⟩ := mapping.expandInto_eq roots (#[] : Array Triple)
  rw [expand, sink, failures, toList_foldl_insertAll, flatten_deliveries]
  rfl

/-- All entry points attempt the same roots in the same contexts.  An array has
the triples of the roots that succeed appended, and any other destination gets
the same triples one by one in the same order.  The same failures are reported,
with ascending indices and the names as they were given, and a run that is to be
complete is refused with them. -/
theorem entryPoints_agree :
    let attempts := mapping.attempts roots
    let report := mapping.expand roots
    attempts.length = roots.length ∧
    report.triples = attempts.flatMap Outcome.triples ∧
    report.failures = rootFailures 0 roots attempts ∧
    (∀ sink : Array Triple, (mapping.expandInto roots sink).sink.toList =
      sink.toList ++ report.triples ∧
      (mapping.expandInto roots sink).failures = report.failures) ∧
    (∀ (σ : Type) (insert : σ → Triple → σ) (sink : σ),
      let run := @expandInto σ { insert } mapping roots sink
      run.sink = report.triples.foldl insert sink ∧
        run.failures = report.failures) ∧
    (∀ (σ : Type) [TripleSink σ] (sink : σ),
      (mapping.expandInto roots sink).sink =
        (attempts.filterMap Outcome.delivery?).foldl TripleSink.insertAll sink ∧
        (mapping.expandInto roots sink).failures = report.failures) ∧
    (report.failures.Pairwise fun earlier later => earlier.index <
      later.index) ∧
    (∀ failed ∈ report.failures, failed.index < roots.length ∧
      ∃ root outcome, roots[failed.index]? = some root ∧
        attempts[failed.index]? = some outcome ∧
        failed.template = root.template ∧
        outcome.result = .error failed.failure) ∧
    ((∃ triples, mapping.expandAllOrNothing roots = .ok triples) ↔
      report.failures = []) ∧
    (report.failures = [] →
      mapping.expandAllOrNothing roots = .ok report.triples) ∧
    (report.failures ≠ [] → mapping.expandAllOrNothing roots =
      .error { roots := roots.length, failures := report.failures }) := by
  intro attempts report
  have whole : report = _ := mapping.expand_eq roots
  have failures : report.failures = rootFailures 0 roots attempts := by
    rw [whole]
  have triples :
      report.triples = (attempts.filterMap Outcome.delivery?).flatten := by
    rw [whole, flatten_deliveries]
  have succeeds (noFailure : report.failures = []) :
      mapping.expandAllOrNothing roots = .ok report.triples := by
    have complete : report.isSuccess = true := List.isEmpty_iff.mpr noFailure
    exact if_pos complete
  have fails (anyFailure : report.failures ≠ []) :
      mapping.expandAllOrNothing roots =
        .error { roots := roots.length, failures := report.failures } := by
    have incomplete :
        ¬ report.isSuccess = true := mt List.isEmpty_iff.mp anyFailure
    exact if_neg incomplete
  refine ⟨Expansion.length_attempts _ _ roots, ?_, failures, ?_, ?_, ?_, ?_, ?_,
    ?_, succeeds, fails⟩
  · rw [triples, flatten_deliveries]
  · intro sink
    obtain ⟨delivered, reported⟩ := mapping.expandInto_eq roots sink
    rw [delivered, reported, toList_foldl_insertAll, triples, failures]
    exact ⟨rfl, rfl⟩
  · intro σ insert sink run
    obtain ⟨delivered, reported⟩ :=
      @expandInto_eq mapping roots σ { insert } sink
    rw [triples, List.foldl_flatten]
    exact ⟨delivered, reported.trans failures.symm⟩
  · intro σ _ sink
    obtain ⟨delivered, reported⟩ := mapping.expandInto_eq roots sink
    exact ⟨delivered, reported.trans failures.symm⟩
  · rw [failures]
    exact pairwise_rootFailures 0 roots attempts
  · intro failed member
    rw [failures] at member
    obtain ⟨root, outcome, isRoot, rest⟩ := mem_rootFailures member
    exact ⟨(List.getElem?_eq_some_iff.mp isRoot).1, root, outcome, isRoot, rest⟩
  · constructor
    · intro isOk
      obtain ⟨delivered, succeeded⟩ := isOk
      by_cases noFailure : report.failures = []
      · exact noFailure
      · rw [fails noFailure] at succeeded
        cases succeeded
    · intro noFailure
      exact ⟨report.triples, succeeds noFailure⟩

/-- A stub between two pages, delivered to an array, to a counter and not at
all. -/
theorem entryPoints_agree_notes :
    let report := noteMapping.expand noteRoots
    let first : Triple := ⟨.iri "p", .iri "is", .string "first"⟩
    report.failures.map RootFailure.index = [1] ∧
    (noteMapping.expandInto noteRoots #[first]).sink.toList =
      first :: report.triples ∧
    (@expandInto Nat { insert count _ := count + 1 } noteMapping noteRoots
      0).sink = 8 ∧
    noteMapping.expandAllOrNothing noteRoots =
      .error { roots := 3, failures := report.failures } ∧
    noteMapping.expandAllOrNothing [pageRoot] =
      .ok (noteMapping.expand [pageRoot]).triples := by
  intro report first
  obtain ⟨_, _, _, array, inserting, _, _, _, _, _, fails⟩ :=
    entryPoints_agree noteMapping noteRoots
  obtain ⟨_, _, _, _, _, _, _, _, _, succeeds, _⟩ :=
    entryPoints_agree noteMapping [pageRoot]
  have indices : report.failures.map RootFailure.index = [1] := by
    decide +kernel
  refine ⟨indices, (array #[first]).1, ?_, ?_, succeeds (by decide +kernel)⟩
  · rw [(inserting Nat (fun count _ => count + 1) 0).1]
    decide +kernel
  · apply fails
    intro noFailure
    rw [show report.failures = [] from noFailure] at indices
    cases indices

end Mapping

end RdfTemplates
