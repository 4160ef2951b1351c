import RdfTemplates.Library.Validation
import RdfTemplates.Proofs.Checks
import RdfTemplates.Proofs.Library.Construction

/-!
# Problems of a library

Where the problems that validation lists come from, and how a call can be
refused.
-/

namespace RdfTemplates

namespace Library

/-- A call that cannot be right names the built-in template with a wrong number
of arguments, or no template, or one whose signature refuses the number. -/
theorem checkCall_eq_error {library : Library} {name : String} {count : Nat}
    {fault : Fault} (refused : library.checkCall name count = .error fault) :
    (name = Vocabulary.ottrTriple ∧ fault = .tripleArity count) ∨
      name ≠ Vocabulary.ottrTriple ∧
        (fault = .unknownTemplate name ∧ library.find? name = none ∨
          ∃ parameters reason, fault =
            .arityMismatch name parameters count reason) := by
  unfold checkCall at refused
  split at refused
  · rename_i isTriple
    split at refused
    · cases refused
    · cases refused
      exact Or.inl ⟨by simpa using isTriple, rfl⟩
  · rename_i notTriple
    refine Or.inr ⟨by simpa using notTriple, ?_⟩
    split at refused
    · rename_i template found
      obtain ⟨reason, rfl⟩ := Signature.checkArity_eq_error refused
      have sameName :
          template.signature.name = name := (mem_and_name_of_find? found).2
      exact Or.inr ⟨_, reason, by rw [sameName]⟩
    · rename_i absent
      cases refused
      exact Or.inl ⟨rfl, absent⟩

theorem find?_of_lookup {library : Library} {name : String}
    {template : Template} (found : library.lookup name = .ok template) :
    library.find? name = some template := by
  unfold lookup at found
  split at found
  · rename_i result
    cases found
    exact result
  · cases found

theorem name_of_lookup {library : Library} {name : String} {template : Template}
    (found : library.lookup name = .ok template) : template.name = name :=
  (mem_and_name_of_find? (find?_of_lookup found)).2

/-- A call that is not of the built-in template is checked against its
template. -/
theorem checkCall_of_lookup {library : Library} {name : String}
    {template : Template} (notTriple : name ≠ Vocabulary.ottrTriple)
    (found : library.lookup name = .ok template) (count : Nat) :
    library.checkCall name count = template.signature.checkArity count := by
  simp [checkCall, notTriple, find?_of_lookup found]

theorem checkCall_of_lookup_error {library : Library} {name : String}
    {fault : Fault} (notTriple : name ≠ Vocabulary.ottrTriple)
    (absent : library.lookup name = .error fault) (count : Nat) :
    library.checkCall name count = .error fault := by
  unfold lookup at absent
  split at absent
  · cases absent
  · rename_i result
    cases absent
    simp [checkCall, notTriple, result]

theorem contains_eq_isSome_find? (library : Library) (name : String) :
    library.contains name = (library.find? name).isSome := by
  simp [contains, find?, List.isSome_find?]

theorem contains_of_find? {library : Library} {name : String}
    {template : Template} (found : library.find? name = some template) :
    library.contains name = true := by
  rw [contains_eq_isSome_find?, found]
  rfl

/-- A root name resolves to one that has instances. -/
theorem hasInstances_of_resolveRoot {library : Library} {given name : String}
    (resolved : library.resolveRoot given = .ok name) :
    library.hasInstances name = true := by
  unfold resolveRoot at resolved
  split at resolved
  · rename_i exact
    cases resolved
    exact exact
  · split at resolved
    · split at resolved
      · rename_i full
        cases resolved
        exact full
      · cases resolved
    · cases resolved

/-! ## Faults of a definition -/

/-- The faults are listed as problems of the template of this name. -/
def Reports (library : Library) (name : String) (faults : List Fault) : Prop :=
  ∀ fault ∈ faults, { template := name, fault : Problem } ∈ library.problems

theorem Reports.left {library : Library} {name : String}
    {first second : List Fault}
    (reports : library.Reports name (first ++ second)) :
    library.Reports name first :=
  fun fault member => reports fault (List.mem_append_left second member)

theorem Reports.right {library : Library} {name : String}
    {first second : List Fault}
    (reports : library.Reports name (first ++ second)) :
    library.Reports name second :=
  fun fault member => reports fault (List.mem_append_right first member)

theorem reports_pattern {library : Library} {template : Template}
    {pattern : Pattern} (defined : template ∈ library.templates)
    (member : pattern ∈ template.body) :
    library.Reports template.name
      (library.patternFaults template.signature pattern) := by
  intro fault faulty
  simp only [problems, List.mem_flatMap, List.mem_map]
  refine ⟨template, defined, fault, ?_, rfl⟩
  rw [templateFaults]
  exact List.mem_append_right _ (List.mem_flatMap.mpr ⟨pattern, member, faulty⟩)

theorem mem_callFaults {library : Library} {name : String} {count : Nat}
    {fault : Fault} (refused : library.checkCall name count = .error fault) :
    fault ∈ library.callFaults name count := by
  simp [callFaults, refused]

/-! ## Validity -/

theorem problems_eq_nil_iff {library : Library} : library.problems = [] ↔
    ∀ template ∈ library.templates, library.templateFaults template = [] := by
  simp [problems, List.flatMap_eq_nil_iff]

theorem templateFaults_eq_nil_iff {library : Library} {template : Template} :
    library.templateFaults template = [] ↔
      template.signature.duplicateParameter? = none ∧
        ∀ pattern ∈ template.body,
          library.patternFaults template.signature pattern = [] := by
  simp [templateFaults, List.flatMap_eq_nil_iff]

theorem argumentsFaults_append (library : Library) (owner : Signature)
    (arguments rest : List Argument) :
    library.argumentsFaults owner (arguments ++ rest) =
      library.argumentsFaults owner arguments ++
        library.argumentsFaults owner rest := by
  induction arguments with
  | nil => rfl
  | cons argument arguments induction =>
      simp only [List.cons_append, argumentsFaults, induction,
        List.append_assoc]

/-- Terms are as faulty as their list. -/
theorem argumentsFaults_terms (library : Library) (owner : Signature)
    (terms : List Term) :
    library.argumentsFaults owner (terms.map .term) =
      owner.undeclared (.list terms) := by
  induction terms with
  | nil => rfl
  | cons term terms induction =>
      simp [argumentsFaults, argumentFaults, induction, Signature.undeclared,
        Term.variableNames, Term.listVariableNames]

end Library

theorem Signature.mem_undeclared {signature : Signature} {term : Term}
    {name : String} (occurs : name ∈ term.variableNames)
    (undeclared : signature.declares name = false) :
    .unboundVariable name ∈ signature.undeclared term := by
  rw [Signature.undeclared]
  apply List.mem_map_of_mem
  simp [occurs, undeclared]

end RdfTemplates
