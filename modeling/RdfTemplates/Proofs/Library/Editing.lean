import Mathlib.Data.List.Forall2
import RdfTemplates.Proofs.Validation.Problems

/-!
# Edited bodies

Two libraries may differ in nothing but the bodies of their templates.  Names
mean the same in both, instances are accepted by both or by none, and if one has
come about by definitions, then so has the other.
-/

namespace RdfTemplates

variable {bodies : List Pattern → List Pattern → Prop}

/-- The same signature, with a body that is related to the other one. -/
structure Template.Edited (bodies : List Pattern → List Pattern → Prop)
    (template edited : Template) : Prop where
  signature : template.signature = edited.signature
  body : bodies template.body edited.body

/-- The same definitions in the same order, with related bodies. -/
structure Library.Edited (bodies : List Pattern → List Pattern → Prop)
    (library edited : Library) : Prop where
  prefixes : library.prefixes = edited.prefixes
  templates : List.Forall₂ (Template.Edited bodies) library.templates
    edited.templates

theorem Template.Edited.name_eq {template edited : Template}
    (same : template.Edited bodies edited) : template.name = edited.name :=
  congrArg Signature.name same.signature

namespace Library.Edited

variable {library edited : Library}

/-- A name stands for a template and its edited form, or for nothing in either
library. -/
theorem find? (same : library.Edited bodies edited) (name : String) :
    (∃ template other, library.find? name = some template ∧
        edited.find? name = some other ∧ template.Edited bodies other) ∨
      library.find? name = none ∧ edited.find? name = none := by
  have pairs := same.templates
  simp only [Library.find?]
  generalize library.templates = templates, edited.templates = others at pairs ⊢
  induction pairs with
  | nil => exact Or.inr ⟨rfl, rfl⟩
  | cons pair _ induction =>
      rw [List.find?_cons, List.find?_cons, pair.name_eq]
      split
      · exact Or.inl ⟨_, _, rfl, rfl, pair⟩
      · exact induction

theorem contains_eq (same : library.Edited bodies edited) (name : String) :
    library.contains name = edited.contains name := by
  rw [contains_eq_isSome_find?, contains_eq_isSome_find?]
  rcases same.find? name with ⟨_, _, found, foundOther, _⟩ |
    ⟨absent, absentOther⟩
  · rw [found, foundOther]
    rfl
  · rw [absent, absentOther]

theorem hasInstances_eq (same : library.Edited bodies edited) (name : String) :
    library.hasInstances name = edited.hasInstances name := by
  rw [hasInstances, hasInstances, same.contains_eq]

theorem resolveRoot_eq (same : library.Edited bodies edited) (name : String) :
    library.resolveRoot name = edited.resolveRoot name := by
  simp only [resolveRoot, unabbreviate?, same.hasInstances_eq, same.prefixes]

/-! ## Faults -/

theorem checkCall_eq (same : library.Edited bodies edited) (name : String)
    (count : Nat) :
    library.checkCall name count = edited.checkCall name count := by
  rw [checkCall, checkCall]
  rcases same.find? name with ⟨_, _, found, foundOther, pair⟩ |
    ⟨absent, absentOther⟩
  · simp only [found, foundOther, pair.signature]
  · simp only [absent, absentOther]

theorem callFaults_eq (same : library.Edited bodies edited) (name : String)
    (count : Nat) :
    library.callFaults name count = edited.callFaults name count := by
  rw [callFaults, callFaults, same.checkCall_eq]

mutual

theorem argumentFaults_eq (same : library.Edited bodies edited)
    (owner : Signature) :
    ∀ argument : Argument, library.argumentFaults owner argument =
      edited.argumentFaults owner argument
  | .term _ => by simp only [argumentFaults]
  | .nested name arguments => by
      simp only [argumentFaults, same.argumentsFaults_eq owner arguments,
        same.callFaults_eq]

theorem argumentsFaults_eq (same : library.Edited bodies edited)
    (owner : Signature) :
    ∀ arguments : List Argument, library.argumentsFaults owner arguments =
      edited.argumentsFaults owner arguments
  | [] => by simp only [argumentsFaults]
  | argument :: arguments => by
      simp only [argumentsFaults, same.argumentFaults_eq owner argument,
        same.argumentsFaults_eq owner arguments]

end

theorem patternFaults_eq (same : library.Edited bodies edited)
    (owner : Signature) (pattern : Pattern) :
    library.patternFaults owner pattern =
      edited.patternFaults owner pattern := by
  cases pattern with
  | triple triple => rfl
  | nested name arguments =>
      exact same.argumentFaults_eq owner (.nested name arguments)

/-! ## Definitions -/

theorem names_eq (same : library.Edited bodies edited) :
    edited.templates.map Template.name =
      library.templates.map Template.name := by
  have pairs := same.templates
  generalize library.templates = templates, edited.templates = others at pairs ⊢
  induction pairs with
  | nil => rfl
  | cons pair _ induction =>
      rw [List.map_cons, List.map_cons, pair.name_eq, induction]

/-- What passes from a template to its edited form passes from a library to the
edited one. -/
theorem forall_templates (same : library.Edited bodies edited)
    {given holds : Template → Prop}
    (passes : ∀ template other, template.Edited bodies other → given template →
      holds other) (all : ∀ template ∈ library.templates, given template) :
    ∀ other ∈ edited.templates, holds other := by
  have pairs := same.templates
  generalize library.templates = templates, edited.templates =
    others at pairs all ⊢
  induction pairs with
  | nil => exact List.forall_mem_nil holds
  | cons pair _ induction =>
      obtain ⟨first, rest⟩ := List.forall_mem_cons.mp all
      exact List.forall_mem_cons.mpr ⟨passes _ _ pair first, induction rest⟩

theorem built (same : library.Edited bodies edited) (built : library.Built) :
    edited.Built := by
  obtain ⟨distinct, sound⟩ := built_iff.mp built
  rw [← same.names_eq] at distinct
  refine built_iff.mpr ⟨distinct, same.forall_templates ?_ sound⟩
  intro template other pair sound
  rw [← pair.name_eq, ← pair.signature]
  exact sound

end Library.Edited

end RdfTemplates
