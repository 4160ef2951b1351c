import RdfTemplates.Proofs.Direct.Refinement
import RdfTemplates.Proofs.Labels.Lockstep
import RdfTemplates.Proofs.Labels.Renaming

/-!
# Expansion under another stem

The outcomes of one root under two stems, or before and after other roots,
differ by a renaming of fresh labels.  This needs that no label in the root or
in a default looks like a fresh one: such a label would be the same node on one
side only.
-/

namespace RdfTemplates

open LabelSource (Foreign Renamed rename)

/-- No label in the arguments can be fresh. -/
def Instance.Avoids (stem : String) (inst : Instance) : Prop :=
  ∀ label ∈ Term.listBlankNames inst.arguments, Foreign stem label

/-- No label in a default can be fresh. -/
def Library.DefaultsAvoid (stem : String) (library : Library) : Prop :=
  ∀ template ∈ library.templates, ∀ parameter ∈ template.signature.parameters,
    ∀ default ∈ parameter.default, ∀ label ∈ default.blankNames,
      Foreign stem label

instance (stem : String) (inst : Instance) : Decidable (inst.Avoids stem) :=
  inferInstanceAs (Decidable (∀ label ∈ Term.listBlankNames inst.arguments,
    Foreign stem label))

instance (stem : String) (library : Library) :
    Decidable (library.DefaultsAvoid stem) :=
  inferInstanceAs (Decidable (∀ template ∈ library.templates,
    ∀ parameter ∈ template.signature.parameters, ∀ default ∈ parameter.default,
      ∀ label ∈ default.blankNames, Foreign stem label))

variable {stem target : String}

theorem Instance.Avoids.matches_self {inst : Instance} (shift : Nat)
    (avoids : inst.Avoids stem) (avoidsTarget : inst.Avoids target) :
    inst.Matches (Renamed stem target shift) inst := by
  apply Instance.matches_self
  intro label member
  exact (avoids label member).renamed shift (avoidsTarget label member)

theorem Library.defaultsMatch {library : Library} (shift : Nat)
    (avoid : library.DefaultsAvoid stem)
    (avoidTarget : library.DefaultsAvoid target) {template : Template}
    (member : template ∈ library.templates) :
    DefaultsMatch (Renamed stem target shift)
      template.signature.parameters := by
  intro parameter parameterMember default hasDefault
  apply Term.matches_self
  intro label labelMember
  have foreign :=
    avoid template member parameter parameterMember default hasDefault
  have foreignTarget :=
    avoidTarget template member parameter parameterMember default hasDefault
  exact (foreign label labelMember).renamed shift
    (foreignTarget label labelMember)

namespace Direct

/-- Runs that fail with the same failure but for a renaming, or do not fail. -/
def Correspondence.renamed (stem target : String) (shift : Nat) :
    Correspondence where
  toLabelSupply := LabelSource.renamedSupply stem target shift
  outputs := List.Forall₂ (Triple.Matches (Renamed stem target shift))
  emitted outputs matching := List.rel_append outputs (.cons matching .nil)
  leftExcused _ := False
  rightExcused _ := False
  failures := Failure.Matches (Renamed stem target shift)

variable {setting : Setting}

theorem renamed_lockstep (shift : Nat)
    (avoid : setting.library.DefaultsAvoid setting.stem)
    (avoidTarget : setting.library.DefaultsAvoid target) :
    (Correspondence.renamed setting.stem target shift).Lockstep setting
      { setting with stem := target } where
  leftStem := rfl
  rightStem := rfl
  library := rfl
  checkTypes := rfl
  defaults _ member := Library.defaultsMatch shift avoid avoidTarget member
  maxDepth := rfl
  answered := by
    intro leftCalls rightCalls calls leftFault rightFault faults
    exact Or.inr (Or.inr ⟨faults, calls⟩)
  refuses := by
    intro leftCalls rightCalls calls leftInst rightInst matching
    have renamedBy := LabelSource.renamed_renamedBy setting.stem target shift
    have unique := (LabelSource.Renamed.biUnique setting.stem target shift).1
    apply Or.inl
    simp only [Setting.refuses]
    rw [contains_eq unique renamedBy calls matching]

/-- A root that is expanded under another stem, when more labels have been used,
has the same outcome but for a renaming of the fresh labels. -/
theorem outcome_relabelled (setting : Setting) (target : String) (shift : Nat)
    (avoid : setting.library.DefaultsAvoid setting.stem)
    (avoidTarget : setting.library.DefaultsAvoid target) {root : Instance}
    (rootAvoids : root.Avoids setting.stem)
    (rootAvoidsTarget : root.Avoids target) (allocated : Nat) :
    outcome { setting with stem := target } root (allocated + shift) =
      (outcome setting root allocated).relabel
        (rename setting.stem target shift) shift := by
  have renamedBy := LabelSource.renamed_renamedBy setting.stem target shift
  have agree := (renamed_lockstep shift avoid avoidTarget).expandRoot
    (rootAvoids.matches_self shift rootAvoidsTarget)
  have outcomes :=
    Correspondence.outcomes_of_agree agree .nil allocated
      (allocated + shift) rfl
  generalize outcome setting root allocated = left at outcomes ⊢
  generalize outcome { setting with stem := target } root (allocated + shift) =
    right at outcomes ⊢
  cases outcomes with
  | succeed triples finalCounts =>
      have renamedTriples := eq_map_of_forall₂
        (fun _ _ triple => Triple.Matches.eq_relabel renamedBy triple) triples
      simp only [Outcome.relabel, Outcome.mk.injEq]
      exact ⟨congrArg Except.ok renamedTriples, finalCounts⟩
  | fail failures finalCounts =>
      simp only [Outcome.relabel, Outcome.mk.injEq]
      exact ⟨congrArg Except.error (failures.eq_relabel renamedBy), finalCounts⟩
  | leftExcused impossible => exact False.elim impossible
  | rightExcused impossible => exact False.elim impossible

end Direct

/-- Expansion is reproducible: under another stem a root has the same outcome
with its fresh labels renamed. -/
theorem Expansion.outcome_stem_renamed (library : Library)
    (built : library.Built) (options : Options) (first second : String)
    (random : Nat) (root : Instance) (rootAvoidsFirst : root.Avoids first)
    (rootAvoidsSecond : root.Avoids second)
    (defaultsAvoidFirst : library.DefaultsAvoid first)
    (defaultsAvoidSecond : library.DefaultsAvoid second) :
    outcome library
      (.ofOptions { options with blankStem := some second } random) root =
      (outcome library (.ofOptions { options with blankStem := some first }
        random) root).relabel
        (rename first second 0) 0 := by
  let setting : Direct.Setting :=
    .ofOptions library { options with blankStem := some first } random
  calc
    outcome library
      (.ofOptions { options with blankStem := some second } random) root
    _ = Direct.outcome { setting with stem := second } root 0 :=
        Direct.outcome_eq { setting with stem := second } built root 0
    _ = (Direct.outcome setting root 0).relabel (rename first second 0) 0 :=
        Direct.outcome_relabelled setting second 0 defaultsAvoidFirst
          defaultsAvoidSecond rootAvoidsFirst rootAvoidsSecond 0
    _ = (outcome library
      (.ofOptions { options with blankStem := some first } random) root).relabel
      (rename first second 0) 0 := by
        have same := Direct.outcome_eq setting built root 0
        exact congrArg (Outcome.relabel (rename first second 0) 0) same.symm

theorem Expansion.outcome_stub :
    noteLibrary.Built ∧ stubRoot.Avoids "b" ∧ stubRoot.Avoids "c" ∧
      noteLibrary.DefaultsAvoid "b" ∧ noteLibrary.DefaultsAvoid "c" ∧
      outcome noteLibrary (.ofOptions { blankStem := some "c" } 0) stubRoot =
        (outcome noteLibrary
          (.ofOptions { blankStem := some "b" } 0) stubRoot).relabel
          (rename "b" "c" 0) 0 ∧
      outcome noteLibrary (.ofOptions { blankStem := some "c" } 0) stubRoot =
        { result := .error
            { fault := .blankNodeNotAllowed "Note" "about" (.blank "c_0")
              calls := [⟨"Note", [.blank "c_0"]⟩, ⟨"Stub", []⟩] }
          allocated := 1 } := by
  have rootAvoidsFirst : stubRoot.Avoids "b" := by decide +kernel
  have rootAvoidsSecond : stubRoot.Avoids "c" := by decide +kernel
  have defaultsAvoidFirst : noteLibrary.DefaultsAvoid "b" := by decide +kernel
  have defaultsAvoidSecond : noteLibrary.DefaultsAvoid "c" := by decide +kernel
  refine ⟨noteLibrary_built, rootAvoidsFirst, rootAvoidsSecond,
    defaultsAvoidFirst, defaultsAvoidSecond, ?_, by decide +kernel⟩
  exact outcome_stem_renamed noteLibrary noteLibrary_built {} "b" "c" 0 stubRoot
    rootAvoidsFirst rootAvoidsSecond defaultsAvoidFirst defaultsAvoidSecond

end RdfTemplates
