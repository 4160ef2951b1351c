import RdfTemplates.Proofs.Labels.Renaming
import RdfTemplates.Proofs.Mapping.Independence
import RdfTemplates.Proofs.Origins.Runs
import RdfTemplates.Proofs.Restoration.Roots

/-!
# Origins of the labels of roots

The roots of a mapping use the labels of one source, one root after the other.
So a label in the triples of a root comes from its arguments, from a default, or
from the part of the counts that was handed out for this very root, and two
roots share no label unless it has been given to one of them or stands in a
default.  A placeholder of a body never comes out for its own sake: it is found
in the output only if it is given as well, or if it is spelled like a label that
was handed out.
-/

namespace RdfTemplates

open LabelSource (Foreign label_injective)

/-- The labels of the arguments of an instance. -/
def Instance.blankNames (inst : Instance) : List String :=
  Term.listBlankNames inst.arguments

/-- The labels of a triple. -/
def Triple.blankNames (triple : Triple) : List String :=
  Term.listBlankNames triple.terms

mutual

def Argument.blankNames : Argument → List String
  | .term value => value.blankNames
  | .nested _ arguments => Argument.listBlankNames arguments

def Argument.listBlankNames : List Argument → List String
  | [] => []
  | argument :: arguments =>
      argument.blankNames ++ Argument.listBlankNames arguments

end

def Pattern.blankNames : Pattern → List String
  | .triple written => written.blankNames
  | .nested _ arguments => Argument.listBlankNames arguments

/-- The labels in a body, each a placeholder for a node of every repetition. -/
def Template.placeholders (template : Template) : List String :=
  template.body.flatMap Pattern.blankNames

/-- A root in the run of a mapping: how many labels had been used before it, and
what came of it. -/
structure RootRun where
  root : Instance
  used : Nat
  outcome : Outcome
  deriving DecidableEq

namespace RootRun

def triples (run : RootRun) : List Triple :=
  run.outcome.triples

def blankNames (run : RootRun) : List String :=
  run.triples.flatMap Triple.blankNames

/-- Where a label in the triples of a root comes from. -/
inductive Origin (run : RootRun) (library : Library) (stem label : String) :
    Prop where
  | argument : label ∈ run.root.blankNames → Origin run library stem label
  | default : library.HasDefaultLabel label → Origin run library stem label
  /-- It was handed out while the root was expanded. -/
  | fresh (count : Nat) : run.used ≤ count → count < run.outcome.allocated →
      label = LabelSource.label stem count → Origin run library stem label

end RootRun

namespace MappingProgress

variable {σ : Type} [TripleSink σ]

/-- What comes of the next root. -/
def run (library : Library) (progress : MappingProgress σ) (root : Instance) :
    RootRun where
  root
  used := progress.state.context.labels.allocated
  outcome :=
    match Expansion.expandRoot library root progress.state with
    | .ok triples state => ⟨.ok triples, state.context.labels.allocated⟩
    | .error failure state => ⟨.error failure, state.context.labels.allocated⟩

/-- What comes of the next roots. -/
def runs (library : Library) (progress : MappingProgress σ) :
    List Instance → List RootRun
  | [] => []
  | root :: roots =>
      progress.run library root ::
        (progress.step library root).runs library roots

end MappingProgress

/-- What comes of the roots of a mapping, in order. -/
def Mapping.rootRuns (mapping : Mapping) (roots : List Instance) :
    List RootRun :=
  (mapping.start (#[] : Array Triple)).runs mapping.library roots

namespace Direct

theorem le_outcome_allocated (setting : Setting) (built : setting.library.Built)
    (root : Instance) (allocated : Nat) :
    allocated ≤ (outcome setting root allocated).allocated := by
  rw [← outcome_eq setting built root allocated]
  have restored := Expansion.restored_expandRoot setting.library root
    { context := setting.context allocated {} [] }
  simp only [Expansion.outcome]
  cases ended : Expansion.expandRoot setting.library root
      { context := setting.context allocated {} [] } with
  | ok triples state =>
      rw [ended] at restored
      exact restored.allocated
  | error failure state =>
      rw [ended] at restored
      exact restored.allocated

end Direct

namespace MappingProgress

section Idle

variable {mapping : Mapping} (built : mapping.library.Built) {σ : Type}
  {progress : MappingProgress σ} {used : Nat}
  (idle : progress.state.context = mapping.setting.context used {} [])

include built idle

theorem run_eq (root : Instance) :
    progress.run mapping.library root =
      ⟨root, used, Direct.outcome mapping.setting root used⟩ := by
  have delivers : Direct.Delivers mapping.setting {}
      (Expansion.expandRoot mapping.library root)
      (Direct.expandRoot mapping.setting root) :=
    Direct.Delivers.expandRoot mapping.setting built root
  simp only [MappingProgress.run, idle, Direct.outcome]
  rcases delivers progress.state used idle with
    ⟨next, trail, stepEnd, runEnd, nextContext⟩ |
    ⟨failure, next, trail, stepEnd, runEnd, resetContext⟩
  · rw [stepEnd, runEnd]
    simp [nextContext, Direct.Setting.context]
  · have labels :
        next.context.labels = ⟨mapping.setting.stem, trail.allocated⟩ :=
      congrArg Context.labels resetContext
    rw [stepEnd, runEnd]
    simp [labels, Direct.Setting.context]

variable [TripleSink σ]

/-- The next root starts where the labels of this one end, whether it fails or
not. -/
theorem context_step (root : Instance) :
    (progress.step mapping.library root).state.context =
      mapping.setting.context
        (Direct.outcome mapping.setting root used).allocated {} [] := by
  have delivers : Direct.Delivers mapping.setting {}
      (Expansion.expandRoot mapping.library root)
      (Direct.expandRoot mapping.setting root) :=
    Direct.Delivers.expandRoot mapping.setting built root
  simp only [MappingProgress.step, Direct.outcome]
  rcases delivers progress.state used idle with
    ⟨next, trail, stepEnd, runEnd, nextContext⟩ |
    ⟨failure, next, trail, stepEnd, runEnd, resetContext⟩
  · rw [stepEnd, runEnd]
    exact nextContext
  · rw [stepEnd, runEnd]
    exact resetContext

theorem runs_cons (root : Instance) (roots : List Instance) :
    progress.runs mapping.library (root :: roots) =
      ⟨root, used, Direct.outcome mapping.setting root used⟩ ::
        (progress.step mapping.library root).runs mapping.library roots := by
  rw [runs, run_eq built idle]

/-- Each root is expanded as if on its own, with labels that come after those
used before. -/
theorem outcome_of_mem_runs (roots : List Instance) :
    ∀ run ∈ progress.runs mapping.library roots, used ≤ run.used ∧
      run.outcome = Direct.outcome mapping.setting run.root run.used := by
  induction roots generalizing progress used with
  | nil => exact List.forall_mem_nil _
  | cons root roots induction =>
      rw [runs_cons built idle]
      refine List.forall_mem_cons.mpr ⟨⟨Nat.le_refl _, rfl⟩, ?_⟩
      intro run member
      obtain ⟨later, outcome⟩ :=
        induction (context_step built idle root) run member
      have grows := Direct.le_outcome_allocated mapping.setting built root used
      exact ⟨Nat.le_trans grows later, outcome⟩

theorem pairwise_runs (roots : List Instance) :
    (progress.runs mapping.library roots).Pairwise fun earlier later =>
      earlier.outcome.allocated ≤ later.used := by
  induction roots generalizing progress used with
  | nil => exact .nil
  | cons root roots induction =>
      rw [runs_cons built idle]
      have next := context_step built idle root
      refine .cons ?_ (induction next)
      intro later member
      exact (outcome_of_mem_runs built next roots later member).1

end Idle

theorem roots_runs {σ : Type} [TripleSink σ] (library : Library)
    (progress : MappingProgress σ) (roots : List Instance) :
    (progress.runs library roots).map RootRun.root = roots := by
  induction roots generalizing progress with
  | nil => rfl
  | cons root roots induction =>
      simp only [runs, List.map_cons, induction]
      rfl

theorem sink_step (library : Library)
    (progress : MappingProgress (Array Triple)) (root : Instance) :
    (progress.step library root).sink.toList =
      progress.sink.toList ++ (progress.run library root).triples := by
  simp only [step, run, RootRun.triples, Outcome.triples]
  cases Expansion.expandRoot library root progress.state with
  | ok triples state => simp [TripleSink.insertAll]
  | error failure state => simp

theorem sink_foldl (library : Library)
    (progress : MappingProgress (Array Triple)) (roots : List Instance) :
    (roots.foldl (step library) progress).sink.toList =
      progress.sink.toList ++
        (progress.runs library roots).flatMap RootRun.triples := by
  induction roots generalizing progress with
  | nil => simp [runs]
  | cons root roots induction =>
      rw [List.foldl_cons, induction, sink_step, runs, List.flatMap_cons,
        List.append_assoc]

end MappingProgress

namespace Mapping

variable (mapping : Mapping)

theorem triples_expand (roots : List Instance) :
    (mapping.expand roots).triples =
      (mapping.rootRuns roots).flatMap RootRun.triples := by
  simp [expand, expandInto, rootRuns, MappingProgress.sink_foldl, start]

theorem roots_rootRuns (roots : List Instance) :
    (mapping.rootRuns roots).map RootRun.root = roots :=
  MappingProgress.roots_runs mapping.library _ roots

variable {mapping}

theorem origin_of_mem_rootRuns (built : mapping.library.Built)
    {roots : List Instance} {run : RootRun}
    (member : run ∈ mapping.rootRuns roots) {label : String}
    (occurs : label ∈ run.blankNames) :
    run.Origin mapping.library mapping.stem label := by
  obtain ⟨_, outcome⟩ :=
    MappingProgress.outcome_of_mem_runs built rfl roots run member
  obtain ⟨triple, isTriple, inTriple⟩ := List.mem_flatMap.mp occurs
  obtain ⟨term, position, inTerm⟩ := Term.mem_listBlankNames.mp inTriple
  rw [RootRun.triples, outcome] at isTriple
  simp only [Direct.outcome] at outcome isTriple
  cases ended :
    Direct.expandRoot mapping.setting run.root { allocated := run.used } with
  | error failure last =>
      rw [ended] at isTriple
      cases isTriple
  | ok value last =>
      rw [ended] at outcome isTriple
      have accounts :=
        Direct.accounts_of_expandRoot ended triple isTriple term position label
          inTerm
      rcases accounts with (given | isDefault) | ⟨count, since, before, isLabel⟩
      · exact .argument given
      · exact .default isDefault
      · refine .fresh count since ?_ isLabel
        rw [outcome]
        exact before

theorem origin_of_shared {earlier later : RootRun} {label : String}
    (ordered : earlier.outcome.allocated ≤ later.used)
    (first : earlier.Origin mapping.library mapping.stem label)
    (second : later.Origin mapping.library mapping.stem label) :
    label ∈ earlier.root.blankNames ∨ label ∈ later.root.blankNames ∨
      mapping.library.HasDefaultLabel label := by
  cases first with
  | argument given => exact Or.inl given
  | default isDefault => exact Or.inr (Or.inr isDefault)
  | fresh count _ before isLabel =>
      cases second with
      | argument given => exact Or.inr (Or.inl given)
      | default isDefault => exact Or.inr (Or.inr isDefault)
      | fresh other since _ isOther =>
          -- One label would have been handed out for both roots.
          have same := label_injective (isLabel.symm.trans isOther)
          omega

end Mapping

/-- All labels of a root come from its arguments, from defaults, or from the
counts that were handed out for it, and these come one after the other.  So
different roots share only labels that were given.  A placeholder of a
registered body is among the labels of a root only if it was given to that root,
stands in a default, or is spelled like a label that was handed out for it. -/
theorem Mapping.labels_separate (mapping : Mapping)
    (built : mapping.library.Built) (roots : List Instance) :
    (mapping.expand roots).triples =
      (mapping.rootRuns roots).flatMap RootRun.triples ∧
      (mapping.rootRuns roots).map RootRun.root = roots ∧
      (∀ run ∈ mapping.rootRuns roots, run.used ≤ run.outcome.allocated ∧
        ∀ label ∈ run.blankNames,
          run.Origin mapping.library mapping.stem label) ∧
      ((mapping.rootRuns roots).Pairwise fun earlier later =>
        earlier.outcome.allocated ≤ later.used ∧
          ∀ label, label ∈ earlier.blankNames → label ∈ later.blankNames →
            label ∈ earlier.root.blankNames ∨ label ∈ later.root.blankNames ∨
              mapping.library.HasDefaultLabel label) ∧
      ∀ template ∈ mapping.library.templates,
        ∀ placeholder ∈ template.placeholders,
          ∀ run ∈ mapping.rootRuns roots, placeholder ∈ run.blankNames →
            placeholder ∈ run.root.blankNames ∨
              mapping.library.HasDefaultLabel placeholder ∨
              ∃ count, run.used ≤ count ∧ count < run.outcome.allocated ∧
                placeholder = LabelSource.label mapping.stem count := by
  have origins : ∀ run ∈ mapping.rootRuns roots, ∀ label ∈ run.blankNames,
      run.Origin mapping.library mapping.stem label :=
    fun run member label occurs => origin_of_mem_rootRuns built member occurs
  refine ⟨mapping.triples_expand roots, mapping.roots_rootRuns roots,
    ?_, ?_, ?_⟩
  · intro run member
    refine ⟨?_, origins run member⟩
    obtain ⟨_, outcome⟩ :=
      MappingProgress.outcome_of_mem_runs built rfl roots run member
    rw [outcome]
    exact Direct.le_outcome_allocated mapping.setting built run.root run.used
  · have ordered : (mapping.rootRuns roots).Pairwise fun earlier later =>
        earlier.outcome.allocated ≤ later.used :=
      MappingProgress.pairwise_runs built rfl roots
    apply ordered.imp_of_mem
    intro earlier later earlierMember laterMember before
    refine ⟨before, ?_⟩
    intro label inEarlier inLater
    exact origin_of_shared before
      (origins earlier earlierMember label inEarlier)
      (origins later laterMember label inLater)
  · -- The body has no part in it: what comes out has an origin, whatever it is
    -- called there.
    intro _ _ placeholder _ run member occurs
    cases origins run member placeholder occurs with
    | argument given => exact Or.inl given
    | default isDefault => exact Or.inr (Or.inl isDefault)
    | fresh count since before isLabel =>
        exact Or.inr (Or.inr ⟨count, since, before, isLabel⟩)

theorem Mapping.labels_notes :
    noteMapping.library.Built ∧
      (noteMapping.rootRuns noteRoots).map (fun run =>
        (run.used, run.outcome.allocated)) =
        [(0, 2), (2, 3), (3, 5)] ∧
      (noteMapping.rootRuns noteRoots).map RootRun.blankNames =
        [["b_0", "b_0", "b_1", "b_1"], [], ["b_3", "b_3", "b_4", "b_4"]] ∧
      (∀ run ∈ noteMapping.rootRuns noteRoots, ∀ label ∈ run.blankNames,
        run.Origin noteMapping.library noteMapping.stem label) ∧
      noteMapping.library.templates.map Template.placeholders =
        [["note", "note"], [], ["page"]] ∧
      ∀ run ∈ noteMapping.rootRuns noteRoots, "note" ∉ run.blankNames := by
  obtain ⟨_, _, origins, _, placeholders⟩ :=
    labels_separate noteMapping noteLibrary_built noteRoots
  refine ⟨noteLibrary_built, by decide +kernel, by decide +kernel,
    fun run member => (origins run member).2, by decide +kernel, ?_⟩
  intro run member occurs
  have given :
      ∀ run ∈ noteMapping.rootRuns noteRoots, "note" ∉ run.root.blankNames := by
    decide +kernel
  have notDefault : ¬noteMapping.library.HasDefaultLabel "note" := by
    simp [Library.HasDefaultLabel, noteMapping, noteLibrary, noteTemplates,
      Term.string, Term.blankNames]
  have foreign : Foreign noteMapping.stem "note" := by decide +kernel
  rcases placeholders _ (List.mem_cons_self ..) "note" (by decide) run member
    occurs with
    isGiven | isDefault | ⟨count, _, _, isLabel⟩
  · exact given run member isGiven
  · exact notDefault isDefault
  · exact foreign count isLabel

/-! ## A placeholder spelled like a fresh label -/

def stampTemplate : Template where
  signature := { name := "T" }
  body := [.triple ⟨.blank "b_0", .iri "p", .iri "a"⟩]

def stampMapping : Mapping :=
  { library := { templates := [stampTemplate] },
    options := { blankStem := some "b" } }

/-- The stem and a placeholder may be chosen so that the first fresh label is
the placeholder. -/
theorem Mapping.not_hidden_stamp :
    stampMapping.library.Built ∧
      (stampMapping.expand [⟨"T", []⟩]).triples =
        [⟨.blank "b_0", .iri "p", .iri "a"⟩] ∧
      ¬∀ template ∈ stampMapping.library.templates,
        ∀ placeholder ∈ template.placeholders,
          ∀ triple ∈ (stampMapping.expand [⟨"T", []⟩]).triples,
            placeholder ∉ triple.blankNames := by
  have accepted :
      Library.ofTemplates [stampTemplate] = .ok stampMapping.library := rfl
  exact ⟨Library.built_of_ofTemplates accepted, by decide +kernel,
    by decide +kernel⟩

end RdfTemplates
