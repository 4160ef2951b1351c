import RdfTemplates.Proofs.Scopes.LiveHandles
import RdfTemplates.Proofs.Validation.Problems

/-!
# Histories of libraries

A library is changed by definitions, which may be refused, and by prefixes.
Whatever the changes are, a template that has been accepted stays, and no name
is ever given twice.  So neither validation nor any expansion comes upon a name
that is bound twice.
-/

namespace RdfTemplates

namespace Library

/-- What is done to a library. -/
inductive Change where
  | define (template : Template)
  | addPrefix (short namespaceIri : String)
  deriving DecidableEq

/-- The library after a change.  A definition that is refused leaves it as it
is. -/
def apply (library : Library) : Change → Library
  | .define template =>
      match library.define template with
      | .ok extended => extended
      | .error _ => library
  | .addPrefix short namespaceIri => library.addPrefix short namespaceIri

def applyAll (library : Library) (changes : List Change) : Library :=
  changes.foldl apply library

/-- The template that a change adds. -/
def accepted? (library : Library) : Change → Option Template
  | .define template =>
      if (library.define template).isOk then some template else none
  | .addPrefix _ _ => none

/-- The templates that changes add, in order. -/
def accepted (library : Library) : List Change → List Template
  | [] => []
  | change :: changes =>
      (library.accepted? change).toList ++
        (library.apply change).accepted changes

/-! ## Changes -/

section Changes

variable {library : Library}

theorem applyAll_cons (library : Library) (change : Change)
    (changes : List Change) :
    library.applyAll (change :: changes) =
      (library.apply change).applyAll changes :=
  rfl

theorem applyAll_append (library : Library) (earlier later : List Change) :
    library.applyAll (earlier ++ later) =
      (library.applyAll earlier).applyAll later :=
  List.foldl_append

theorem templates_apply (library : Library) (change : Change) :
    (library.apply change).templates =
      library.templates ++ (library.accepted? change).toList := by
  cases change with
  | define template =>
      cases defined : library.define template with
      | ok extended =>
          obtain ⟨rfl, _⟩ := define_eq_ok defined
          simp [apply, accepted?, defined, Except.isOk, Except.toBool]
      | error fault =>
          simp [apply, accepted?, defined, Except.isOk, Except.toBool]
  | addPrefix short namespaceIri => simp [apply, accepted?, Library.addPrefix]

theorem templates_applyAll (library : Library) (changes : List Change) :
    (library.applyAll changes).templates =
      library.templates ++ library.accepted changes := by
  induction changes generalizing library with
  | nil => simp [applyAll, accepted]
  | cons change changes induction =>
      rw [applyAll_cons, induction, templates_apply, accepted,
        List.append_assoc]

theorem Built.apply (built : library.Built) (change : Change) :
    (library.apply change).Built := by
  cases change with
  | define template =>
      simp only [Library.apply]
      split
      · rename_i extended defined
        exact built.define defined
      · exact built
  | addPrefix short namespaceIri => exact built.addPrefix short namespaceIri

theorem Built.applyAll (built : library.Built) (changes : List Change) :
    (library.applyAll changes).Built := by
  induction changes generalizing library with
  | nil => exact built
  | cons change changes induction => exact induction (built.apply change)

theorem lookup_eq_ok_iff {name : String} {template : Template} :
    library.lookup name = .ok template ↔
      library.find? name = some template := by
  rw [lookup]
  cases library.find? name <;> simp

theorem lookup_applyAll {name : String} {template : Template}
    (found : library.lookup name = .ok template) (changes : List Change) :
    (library.applyAll changes).lookup name = .ok template := by
  rw [lookup_eq_ok_iff, find?] at found ⊢
  rw [templates_applyAll, List.find?_append, found, Option.some_or]

/-- A template that is accepted is found under its name from then on. -/
theorem lookup_of_define {extended : Library} {template : Template}
    (defined : library.define template = .ok extended) :
    extended.lookup template.name = .ok template := by
  obtain ⟨isNew, _⟩ := define_new defined
  obtain ⟨rfl, _⟩ := define_eq_ok defined
  have absent : library.templates.find? (·.name == template.name) = none := by
    rw [contains_eq_isSome_find?, Option.isSome_eq_false_iff,
      Option.isNone_iff_eq_none] at isNew
    exact isNew
  rw [lookup_eq_ok_iff, find?, List.find?_append, absent]
  simp

theorem hasInstances_iff {name : String} :
    library.hasInstances name = true ↔
      name = Vocabulary.ottrTriple ∨
        ∃ template, library.lookup name = .ok template := by
  simp only [hasInstances, contains_eq_isSome_find?, Bool.or_eq_true,
    beq_iff_eq, Option.isSome_iff_exists, lookup_eq_ok_iff]

end Changes

/-! ## Validation -/

section Validation

variable {library : Library} {owner : Signature} {fault : Fault}

theorem kind_of_mem_undeclared {term : Term}
    (faulty : fault ∈ owner.undeclared term) : fault.kind = .definition := by
  obtain ⟨name, _, rfl⟩ := List.mem_map.mp faulty
  rfl

theorem kind_of_mem_callFaults {name : String} {count : Nat}
    (faulty : fault ∈ library.callFaults name count) :
    fault.kind = .definition := by
  unfold callFaults at faulty
  split at faulty
  · cases faulty
  · rename_i refusal refused
    obtain rfl := List.mem_singleton.mp faulty
    rcases checkCall_eq_error refused with ⟨_, rfl⟩ |
      ⟨_, ⟨rfl, _⟩ | ⟨_, _, rfl⟩⟩
    · rfl
    · rfl
    · rfl

mutual

theorem kind_of_mem_argumentFaults :
    ∀ argument, fault ∈ library.argumentFaults owner argument →
      fault.kind = .definition
  | .term term, faulty => by
      rw [argumentFaults] at faulty
      exact kind_of_mem_undeclared faulty
  | .nested name arguments, faulty => by
      rw [argumentFaults] at faulty
      rcases List.mem_append.mp faulty with inside | own
      · exact kind_of_mem_argumentsFaults arguments inside
      · exact kind_of_mem_callFaults own

theorem kind_of_mem_argumentsFaults : ∀ arguments,
    fault ∈ library.argumentsFaults owner arguments → fault.kind = .definition
  | [], faulty => by
      rw [argumentsFaults] at faulty
      cases faulty
  | argument :: arguments, faulty => by
      rw [argumentsFaults] at faulty
      rcases List.mem_append.mp faulty with first | rest
      · exact kind_of_mem_argumentFaults argument first
      · exact kind_of_mem_argumentsFaults arguments rest

end

theorem kind_of_mem_patternFaults {pattern : Pattern}
    (faulty : fault ∈ library.patternFaults owner pattern) :
    fault.kind = .definition := by
  cases pattern with
  | triple triple =>
      obtain ⟨term, _, inTerm⟩ := List.mem_flatMap.mp faulty
      exact kind_of_mem_undeclared inTerm
  | nested name arguments => exact kind_of_mem_argumentFaults _ faulty

/-- Validation finds nothing wrong with the names of parameters that are
distinct. -/
theorem Built.kind_of_mem_problems (built : library.Built) :
    ∀ problem ∈ library.problems, problem.fault.kind = .definition := by
  intro problem listed
  obtain ⟨template, member, ofTemplate⟩ := List.mem_flatMap.mp listed
  obtain ⟨fault, faulty, rfl⟩ := List.mem_map.mp ofTemplate
  have noDuplicate : template.signature.duplicateParameter? = none :=
    Signature.duplicateParameter?_eq_none_iff.mpr
      (built.parameterNames_nodup template member)
  simp only [templateFaults, noDuplicate, Option.map_none, Option.toList_none,
    List.nil_append] at faulty
  obtain ⟨pattern, _, inPattern⟩ := List.mem_flatMap.mp faulty
  exact kind_of_mem_patternFaults inPattern

end Validation

/-- No fault of naming is admitted where parameters have names of their own. -/
theorem Built.kind_ne_naming {library : Library} (built : library.Built)
    {fault : Fault} (admitted : library.Admits fault) :
    fault.kind ≠ .naming := by
  intro naming
  obtain ⟨template, member, repeats, _⟩ := admitted naming
  exact repeats (built.parameterNames_nodup template member)

/-- However a library has come about, it lists the accepted templates in order,
all with names of their own, and each of them is found under its name from then
on.  What is refused leaves no trace, and root names resolve to nothing but what
can be expanded.  Neither validation nor the expansion of a root reports that a
name is given twice. -/
theorem applyAll_writeOnce (changes : List Change) :
    let library := applyAll {} changes
    library.templates = accepted {} changes ∧
    (library.templates.map Template.name).Nodup ∧
    (∀ template ∈ library.templates, template.name ≠ Vocabulary.ottrTriple ∧
      template.signature.parameterNames.Nodup) ∧
    (∀ name template, library.lookup name = .ok template →
      template.name = name ∧
        (accepted {} changes).find? (·.name == name) = some template) ∧
    (∀ earlier template later extended,
      changes = earlier ++ .define template :: later →
        (applyAll {} earlier).define template = .ok extended →
        library.lookup template.name = .ok template) ∧
    (∀ name template later, library.lookup name = .ok template →
      (library.applyAll later).lookup name = .ok template) ∧
    (∀ template fault, library.define template = .error fault →
      library.apply (.define template) = library) ∧
    (∀ name full, library.resolveRoot name = .ok full →
      full = Vocabulary.ottrTriple ∨
        ∃ template, library.lookup full = .ok template) ∧
    (∀ name, (name = Vocabulary.ottrTriple ∨
      ∃ template, library.lookup name = .ok template) →
      library.resolveRoot name = .ok name) ∧
    (∀ problem ∈ library.problems, ∀ name, problem.fault ≠
      .duplicateBinding name) ∧
    ∀ (root : Instance) (state last : ExpansionState) (failure : Failure),
      Expansion.expandRoot library root state = .error failure last →
        ∀ name, failure.fault ≠ .duplicateBinding name ∧
          failure.fault ≠ .duplicateTemplate name := by
  intro library
  have built : library.Built := Built.empty.applyAll changes
  have listed : library.templates = accepted {} changes :=
    templates_applyAll {} changes
  refine ⟨listed, built.names_nodup, (built_iff.mp built).2, ?_, ?_, ?_, ?_, ?_,
    ?_, ?_, ?_⟩
  · intro name template found
    rw [← listed]
    exact ⟨name_of_lookup found, find?_of_lookup found⟩
  · intro earlier template later extended split defined
    have goesOn : applyAll {} changes = extended.applyAll later := by
      rw [split, applyAll_append, applyAll_cons, apply, defined]
    rw [show library = _ from goesOn]
    exact lookup_applyAll (lookup_of_define defined) later
  · intro name template later found
    exact lookup_applyAll found later
  · intro template fault refused
    simp only [apply, refused]
  · intro name full resolved
    exact hasInstances_iff.mp (hasInstances_of_resolveRoot resolved)
  · intro name known
    simp only [resolveRoot, hasInstances_iff.mpr known, ↓reduceIte]
  · intro problem member name isDuplicate
    have kind := built.kind_of_mem_problems problem member
    rw [isDuplicate] at kind
    cases kind
  · intro root state last failure failed name
    have kind := built.kind_ne_naming (Expansion.admits_of_expandRoot failed)
    constructor
    · intro isDuplicate
      rw [isDuplicate] at kind
      exact kind rfl
    · intro isDuplicate
      rw [isDuplicate] at kind
      exact kind rfl

/-- The notes, with a template of two parameters of one name before them and
another note after them. -/
theorem applyAll_writeOnce_notes :
    let repeating : Template :=
      { signature :=
          { name := "Page", parameters := [{ name := "x" }, { name := "x" }] } }
    let changes : List Change :=
      .define repeating :: .addPrefix "n" "No" :: (noteTemplates.map .define ++
        [.define { signature := { name := "Note" } }])
    let library := applyAll {} changes
    let failure : Failure :=
      { fault := .blankNodeNotAllowed "Note" "about" (.blank "b_0")
        calls := [⟨"Note", [.blank "b_0"]⟩, ⟨"Stub", []⟩] }
    library.templates = noteTemplates ∧
      library.apply (.define repeating) = library ∧
    library.resolveRoot "n:te" = .ok "Note" ∧
      library.resolveRoot "Note" = .ok "Note" ∧
    (library.applyAll changes).lookup "Page" = library.lookup "Page" ∧
    ∃ last, Expansion.expandRoot library stubRoot
      { context := .ofOptions { blankStem := some "b" } 0 } =
      .error failure last ∧
      ∀ name, failure.fault ≠ .duplicateBinding name ∧
        failure.fault ≠ .duplicateTemplate name := by
  intro repeating changes library failure
  obtain ⟨listed, _, _, _, _, stays, refused, _, resolved, _, expansions⟩ :=
    applyAll_writeOnce changes
  have page : library.lookup "Page" = .ok noteTemplates[1] := by decide +kernel
  have failed :
      (Expansion.outcome library (.ofOptions { blankStem := some "b" } 0)
        stubRoot).result =
        .error failure := by
    decide +kernel
  obtain ⟨last, ended⟩ := Expansion.exists_error_of_outcome failed
  refine ⟨listed.trans (by decide +kernel), ?_, by decide +kernel, ?_, ?_, last,
    ended, ?_⟩
  · exact refused repeating (.duplicateTemplate "Page") (by decide +kernel)
  · exact resolved "Note" (Or.inr ⟨noteTemplates[0], by decide +kernel⟩)
  · rw [stays "Page" _ changes page, page]
  · exact expansions stubRoot _ last failure ended

end Library

end RdfTemplates
