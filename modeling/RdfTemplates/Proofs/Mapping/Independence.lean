import Mathlib.Data.List.Induction
import RdfTemplates.Mapping
import RdfTemplates.Proofs.Labels.RenamedRuns

/-!
# Independence of roots

The roots of a mapping are expanded in one context, which a failed root leaves
in the middle of its calls.  Still the report is put together from what each
root gives on its own.  Only the fresh labels move on, by the number of labels
that earlier roots use.
-/

namespace RdfTemplates

open LabelSource (rename)

namespace Outcome

/-- The triples of a root, none if it has failed. -/
def triples (outcome : Outcome) : List Triple :=
  match outcome.result with
  | .ok triples => triples
  | .error _ => []

/-- What is reported of a root that has failed. -/
def rootFailure? (outcome : Outcome) (index : Nat) (template : String) :
    Option RootFailure :=
  match outcome.result with
  | .ok _ => none
  | .error failure => some { index, template, failure }

end Outcome

namespace Mapping

variable (mapping : Mapping)

/-- The stem of all fresh labels. -/
def stem : String :=
  (mapping.options.labels mapping.random).stem

/-- What the roots are expanded with, in the direct meaning of templates. -/
def setting : Direct.Setting :=
  .ofOptions mapping.library mapping.options mapping.random

/-- What comes of a root that is expanded on its own. -/
def alone (root : Instance) : Outcome :=
  Expansion.outcome mapping.library
    (.ofOptions mapping.options mapping.random) root

/-- The number of labels that roots use, each expanded on its own. -/
def labelsUsed (roots : List Instance) : Nat :=
  roots.foldl (fun used root => used + (mapping.alone root).allocated) 0

/-- What comes of a root on its own, with its fresh labels moved on behind those
of earlier roots. -/
def outcomeAfter (earlier : List Instance) (root : Instance) : Outcome :=
  let used := mapping.labelsUsed earlier
  (mapping.alone root).relabel (rename mapping.stem mapping.stem used) used

def outcomes (roots : List Instance) : List Outcome :=
  roots.mapIdx fun index root => mapping.outcomeAfter (roots.take index) root

/-- The report put together from the outcomes that the roots have on their
own. -/
def separately (roots : List Instance) : MappingReport :=
  let outcomes := mapping.outcomes roots
  { triples := outcomes.flatMap Outcome.triples
    failures :=
      (roots.zip outcomes).zipIdx.filterMap fun ((root, outcome), index) =>
      outcome.rootFailure? index root.template
    roots := roots.length }

theorem labelsUsed_concat (earlier : List Instance) (root : Instance) :
    mapping.labelsUsed (earlier ++ [root]) =
      (mapping.outcomeAfter earlier root).allocated := by
  simp only [labelsUsed, outcomeAfter, Outcome.relabel, List.foldl_append,
    List.foldl_cons, List.foldl_nil]
  omega

theorem outcomes_concat (earlier : List Instance) (root : Instance) :
    mapping.outcomes (earlier ++ [root]) =
      mapping.outcomes earlier ++ [mapping.outcomeAfter earlier root] := by
  unfold outcomes
  rw [List.mapIdx_concat, List.take_left]
  congr 1
  -- Up to the earlier roots, the roots before an index are the same in both
  -- lists.
  apply List.ext_getElem
  · rw [List.length_mapIdx, List.length_mapIdx]
  · intro index bound _
    have inside : index ≤ earlier.length := by
      rw [List.length_mapIdx] at bound
      omega
    rw [List.getElem_mapIdx, List.getElem_mapIdx,
      List.take_append_of_le_length inside]

theorem separately_concat (earlier : List Instance) (root : Instance) :
    mapping.separately (earlier ++ [root]) =
      { triples :=
          (mapping.separately earlier).triples ++
            (mapping.outcomeAfter earlier root).triples
        failures := (mapping.separately earlier).failures ++
          ((mapping.outcomeAfter earlier root).rootFailure? earlier.length
            root.template).toList
        roots := earlier.length + 1 } := by
  have sameLength : earlier.length = (mapping.outcomes earlier).length := by
    rw [outcomes, List.length_mapIdx]
  simp only [separately, outcomes_concat, List.zip_append sameLength,
    List.zipIdx_append, List.flatMap_append, List.filterMap_append,
    List.flatMap_singleton, List.length_append,
    List.length_zip, ← sameLength, Nat.min_self, List.length_singleton]
  congr 2
  cases failed : (mapping.outcomeAfter earlier root).rootFailure? earlier.length
    root.template <;>
    simp [failed]

end Mapping

/-! ## The run -/

/-- A run has come to where the roots, each on its own, would have brought
it. -/
structure MappingProgress.Reached (mapping : Mapping) (earlier : List Instance)
    (progress : MappingProgress (Array Triple)) : Prop where
  idle : progress.state.context =
    mapping.setting.context (mapping.labelsUsed earlier) {} []
  triples : progress.sink.toList = (mapping.separately earlier).triples
  roots : progress.roots = earlier.length
  failures : progress.failures.toList = (mapping.separately earlier).failures

section Run

variable {mapping : Mapping} (built : mapping.library.Built)
  (defaultsAvoid : mapping.library.DefaultsAvoid mapping.stem)

include built defaultsAvoid

/-- The outcome of a root that is expanded after others. -/
theorem Mapping.outcome_after (earlier : List Instance) {root : Instance}
    (avoids : root.Avoids mapping.stem) :
    Direct.outcome mapping.setting root (mapping.labelsUsed earlier) =
      mapping.outcomeAfter earlier root := by
  have first : mapping.alone root = Direct.outcome mapping.setting root 0 :=
    Direct.outcome_eq mapping.setting built root 0
  have moved := Direct.outcome_relabelled mapping.setting mapping.stem
    (mapping.labelsUsed earlier) defaultsAvoid defaultsAvoid avoids avoids 0
  rw [Nat.zero_add] at moved
  rw [Mapping.outcomeAfter, first]
  exact moved

theorem MappingProgress.Reached.step {earlier : List Instance}
    {progress : MappingProgress (Array Triple)}
    (reached : progress.Reached mapping earlier) {root : Instance}
    (avoids : root.Avoids mapping.stem) :
    (progress.step mapping.library root).Reached mapping
      (earlier ++ [root]) := by
  have delivers : Direct.Delivers mapping.setting {}
      (Expansion.expandRoot mapping.library root)
      (Direct.expandRoot mapping.setting root) :=
    Direct.Delivers.expandRoot mapping.setting built root
  have after := mapping.outcome_after built defaultsAvoid earlier avoids
  have used := mapping.labelsUsed_concat earlier root
  have concat := mapping.separately_concat earlier root
  unfold MappingProgress.step
  rcases delivers progress.state (mapping.labelsUsed earlier) reached.idle with
    ⟨next, trail, stepEnd, runEnd, nextContext⟩ |
    ⟨failure, next, trail, stepEnd, runEnd, resetContext⟩
  · have ended : mapping.outcomeAfter earlier root =
        ⟨.ok trail.triples, trail.allocated⟩ := by
      rw [← after, Direct.outcome, runEnd]
    rw [ended] at used concat
    rw [stepEnd]
    constructor
    · rw [used]
      exact nextContext
    · rw [concat]
      simp [TripleSink.insertAll, reached.triples, Outcome.triples]
    · simp [reached.roots]
    · rw [concat]
      simp [reached.failures, Outcome.rootFailure?]
  · have ended : mapping.outcomeAfter earlier root =
        ⟨.error failure, trail.allocated⟩ := by
      rw [← after, Direct.outcome, runEnd]
    rw [ended] at used concat
    rw [stepEnd]
    constructor
    · rw [used]
      exact resetContext
    · rw [concat]
      simp [reached.triples, Outcome.triples]
    · simp [reached.roots]
    · rw [concat]
      simp [reached.failures, reached.roots, Outcome.rootFailure?]

theorem MappingProgress.reached (roots : List Instance)
    (avoid : ∀ root ∈ roots, root.Avoids mapping.stem) :
    (roots.foldl (MappingProgress.step mapping.library)
      (mapping.start #[])).Reached
      mapping roots := by
  induction roots using List.reverseRecOn with
  | nil => exact ⟨rfl, rfl, rfl, rfl⟩
  | append_singleton earlier root induction =>
      -- Both runs are taken apart at their last root, since labels are counted
      -- from the first.
      rw [List.foldl_append]
      have before := induction fun other member =>
        avoid other (List.mem_append_left _ member)
      exact before.step built defaultsAvoid (avoid root (by simp))

end Run

/-- Every root of a mapping gives what it gives on its own, but for the counts
of its fresh labels. -/
theorem Mapping.expand_eq_separately (mapping : Mapping)
    (built : mapping.library.Built) (roots : List Instance)
    (avoid : ∀ root ∈ roots, root.Avoids mapping.stem)
    (defaultsAvoid : mapping.library.DefaultsAvoid mapping.stem) :
    mapping.expand roots = mapping.separately roots := by
  have reached := MappingProgress.reached built defaultsAvoid roots avoid
  simp only [expand, expandInto, reached.triples, reached.failures]
  rfl

/-- A stub between two pages. -/
def noteMapping : Mapping :=
  { library := noteLibrary, options := { blankStem := some "b" } }

def noteRoots : List Instance :=
  [pageRoot, stubRoot, pageRoot]

theorem Mapping.expand_notes :
    noteMapping.library.Built ∧
      (∀ root ∈ noteRoots, root.Avoids noteMapping.stem) ∧
      noteMapping.library.DefaultsAvoid noteMapping.stem ∧
      noteMapping.expand noteRoots = noteMapping.separately noteRoots ∧
      (noteMapping.expand noteRoots).failures =
        [ { index := 1
            template := "Stub"
            failure :=
              { fault := .blankNodeNotAllowed "Note" "about" (.blank "b_2")
                calls := [⟨"Note", [.blank "b_2"]⟩, ⟨"Stub", []⟩] } } ] ∧
      (noteMapping.expand noteRoots).triples.map Triple.subject =
        [ .blank "b_0", .blank "b_0", .blank "b_1", .blank "b_1",
          .blank "b_3", .blank "b_3", .blank "b_4", .blank "b_4" ] := by
  have avoid : ∀ root ∈ noteRoots, root.Avoids noteMapping.stem := by
    decide +kernel
  have defaultsAvoid : noteMapping.library.DefaultsAvoid noteMapping.stem := by
    decide +kernel
  refine ⟨noteLibrary_built, avoid, defaultsAvoid, ?_, by decide +kernel,
    by decide +kernel⟩
  exact Mapping.expand_eq_separately noteMapping noteLibrary_built noteRoots
    avoid defaultsAvoid

end RdfTemplates
