import RdfTemplates.Proofs.Contract
import RdfTemplates.Proofs.Direct.Emission
import RdfTemplates.Proofs.Direct.Refinement
import RdfTemplates.Proofs.Validation.Problems
import RdfTemplates.Proofs.Variables

/-!
# Validation foresees the faults of definitions

An expansion that fails because of a definition fails with a problem that
validation lists: the same fault, under the name of the template whose body is
at fault.  Only what a root instance itself gets wrong cannot be seen in any
definition.
-/

namespace RdfTemplates

namespace Failure

/-- The failure is due to a definition.  A root instance of an unknown template,
with a variable or with a wrong number of arguments is not. -/
def BlamesDefinition (failure : Failure) : Prop :=
  match failure.fault with
  | .unboundVariable _ | .unknownTemplate _ => failure.calls ≠ []
  | .arityMismatch template _ _ _ =>
      failure.calls ≠ [] ∧
        ∀ call, failure.calls = [call] → call.template ≠ template
  | _ => False

/-- The active call in whose body the fault lies: the innermost one for a
variable or an instance of the built-in template, and the one around it for any
other instance. -/
def origin? (failure : Failure) : Option Instance :=
  match failure.fault with
  | .unboundVariable _ => failure.calls.head?
  | .arityMismatch template _ _ _ =>
      if template = Vocabulary.ottrTriple then failure.calls.head?
      else failure.calls.tail.head?
  | _ => failure.calls.tail.head?

/-- Validation lists the fault, if it is due to a definition, under the template
whose body it lies in. -/
def Foreseen (library : Library) (failure : Failure) : Prop :=
  failure.BlamesDefinition →
    ∃ call, failure.origin? = some call ∧
      { template := call.template, fault := failure.fault : Problem } ∈
        library.problems

theorem foreseen_of_kind {library : Library} {failure : Failure}
    (other : failure.fault.kind ≠ .definition) : failure.Foreseen library := by
  intro blames
  unfold BlamesDefinition at blames
  split at blames
  · rename_i unbound
    exact absurd (congrArg Fault.kind unbound) other
  · rename_i unknown
    exact absurd (congrArg Fault.kind unknown) other
  · rename_i arity
    exact absurd (congrArg Fault.kind arity) other
  · exact False.elim blames

/-- The failure says that an instance inside active calls is itself wrong: its
template is unknown, or does not take so many arguments. -/
structure RefusesCall (library : Library) (calls : List Instance)
    (inst : Instance) (failure : Failure) : Prop where
  fault : library.checkCall inst.template inst.arguments.length =
    .error failure.fault
  calls : failure.calls =
    if inst.template = Vocabulary.ottrTriple then calls else inst :: calls

/-- A call that is refused inside another one is a fault in the body of that
one. -/
theorem RefusesCall.foreseen {library : Library} {calls : List Instance}
    {call inst : Instance} {failure : Failure}
    (refuses : failure.RefusesCall library (call :: calls) inst)
    (reports : library.Reports call.template
      (library.callFaults inst.template inst.arguments.length)) :
    failure.Foreseen library := by
  intro _
  obtain ⟨refused, active⟩ := refuses
  refine ⟨call, ?_, reports _ (Library.mem_callFaults refused)⟩
  rcases Library.checkCall_eq_error refused with
    ⟨isTriple, arity⟩ | ⟨notTriple, ⟨unknown, _⟩ | ⟨parameters, reason, arity⟩⟩
  · rw [if_pos isTriple] at active
    simp [origin?, arity, Fault.tripleArity, active]
  · rw [if_neg notTriple] at active
    simp [origin?, unknown, active]
  · rw [if_neg notTriple] at active
    simp [origin?, arity, notTriple, active]

end Failure

namespace Direct

/-- The contract of runs whose failures validation foresees, but for some. -/
def foreseeing (library : Library) (excepted : Failure → Prop) :
    Contract Trail where
  states _ := True
  failures failure _ := failure.Foreseen library ∨ excepted failure

/-- The contract of what happens inside a call: every failure is foreseen. -/
abbrev foreseeingAll (library : Library) : Contract Trail :=
  foreseeing library fun _ => False

/-- Inside active calls, every instance fails because it is itself wrong or in a
way that validation foresees. -/
def Foresees (library : Library) (calls : List Instance)
    (expand : Instance → Run Unit) : Prop :=
  ∀ inst, (foreseeing library (·.RefusesCall library calls inst)).MetBy
    (fun _ => True) (expand inst)

section Foreseeing

variable {library : Library} {excepted : Failure → Prop} {calls : List Instance}
  {α β : Type} {values : α → Prop} {results : β → Prop}

theorem foreseeing_fail {fault : Fault}
    (allowed : (Failure.mk fault calls).Foreseen library ∨
      excepted ⟨fault, calls⟩) :
    (foreseeing library excepted).MetBy values (fail calls fault) :=
  fun _ _ => allowed

theorem foreseeing_failOther {fault : Fault}
    (other : fault.kind ≠ .definition) :
    (foreseeing library excepted).MetBy values (fail calls fault) :=
  foreseeing_fail (Or.inl (Failure.foreseen_of_kind other))

theorem foreseeing_bindCheck {result : Except Fault α} {rest : α → Run β}
    (refused : ∀ fault, result = .error fault →
      (Failure.mk fault calls).Foreseen library ∨ excepted ⟨fault, calls⟩)
    (continues : ∀ value, result = .ok value →
      (foreseeing library excepted).MetBy results (rest value)) :
    (foreseeing library excepted).MetBy results
      (check calls result >>= rest) := by
  cases result with
  | ok value => exact continues value rfl
  | error fault =>
      have failed : (foreseeing library excepted).MetBy results
          (fail calls fault : Run β) :=
        foreseeing_fail (refused fault rfl)
      exact failed

/-- What is foreseen without exception is foreseen. -/
theorem foreseeing_of_all {run : Run α}
    (met : (foreseeingAll library).MetBy values run) :
    (foreseeing library excepted).MetBy values run := by
  apply met.excuse
  rintro failure trail (foreseen | impossible)
  · exact Or.inl foreseen
  · exact False.elim impossible

theorem foreseeing_writeTriple (stem : String)
    (subject predicate object : Term) :
    (foreseeing library excepted).MetBy (fun _ => True)
      (writeTriple stem calls subject predicate object) := by
  have refusing : (refusingTerms calls fun _ => True).MetBy (fun _ => True)
      (writeTriple stem calls subject predicate object) :=
    refusingTerms_writeTriple (fun _ _ _ => trivial) trivial trivial trivial
  apply refusing.excuse
  rintro failure trail ⟨position, term, reason, rfl, _⟩
  exact Or.inl (Failure.foreseen_of_kind (by simp [Fault.kind]))

end Foreseeing

/-! ## Bodies -/

section Body

variable {library : Library} {stem : String} {call : Instance}
  {outer : List Instance} {owner : Signature} {values : String → Option Term}

/-- A variable without a value is no parameter, so the body that it stands in is
at fault. -/
theorem foreseeing_bodyTerm
    (bound : ∀ name, values name = none → owner.declares name = false)
    (placeholders : Placeholders) {term : Term}
    (reports : library.Reports call.template (owner.undeclared term)) :
    (foreseeingAll library).MetBy (fun _ => True)
      (bodyTerm stem (call :: outer) values placeholders term) := by
  intro trail _
  have names := placeholders.variableNames_localize ⟨stem, trail.allocated⟩ term
  simp only [bodyTerm]
  split
  · exact ⟨trivial, trivial⟩
  · rename_i name failed
    obtain ⟨occurs, unbound⟩ := Term.unbound_of_substitute failed
    rw [names] at occurs
    have faulty := Signature.mem_undeclared occurs (bound name unbound)
    exact Or.inl fun _ => ⟨call, rfl, reports _ faulty⟩

variable {expand : Instance → Run Unit}

mutual

theorem foreseeing_argumentValue
    (bound : ∀ name, values name = none → owner.declares name = false)
    (nested : Foresees library (call :: outer) expand)
    (placeholders : Placeholders) :
    ∀ argument, library.Reports call.template
      (library.argumentFaults owner argument) →
      (foreseeingAll library).MetBy (fun _ => True)
        (argumentValue stem (call :: outer) expand values placeholders argument)
  | .term term, reports => by
      simp only [argumentValue]
      exact foreseeing_bodyTerm bound placeholders reports
  | .nested template arguments, reports => by
      simp only [argumentValue]
      apply (foreseeing_argumentValues bound nested placeholders arguments
        reports.left).bind
      rintro ⟨terms, placeholders⟩ sameLength
      have refused : (foreseeingAll library).MetBy (fun _ => True)
          (expand { template, arguments := terms }) := by
        apply (nested { template, arguments := terms }).excuse
        rintro failure trail (foreseen | refuses)
        · exact Or.inl foreseen
        · have callReports := reports.right
          rw [← sameLength] at callReports
          exact Or.inl (refuses.foreseen callReports)
      apply refused.bind
      intro _ _
      exact .pure trivial

theorem foreseeing_argumentValues
    (bound : ∀ name, values name = none → owner.declares name = false)
    (nested : Foresees library (call :: outer) expand)
    (placeholders : Placeholders) :
    ∀ arguments,
      library.Reports call.template (library.argumentsFaults owner arguments) →
        (foreseeingAll library).MetBy
          (fun result => result.1.length = arguments.length)
          (argumentValues stem (call :: outer) expand values placeholders
            arguments)
  | [], _ => by
      simp only [argumentValues]
      exact .pure rfl
  | argument :: arguments, reports => by
      simp only [argumentValues]
      apply (foreseeing_argumentValue bound nested placeholders argument
        reports.left).bind
      rintro ⟨term, placeholders⟩ _
      apply (foreseeing_argumentValues bound nested placeholders arguments
        reports.right).bind
      rintro ⟨terms, placeholders⟩ sameLength
      exact .pure (congrArg (· + 1) sameLength)

end

variable (bound : ∀ name, values name = none → owner.declares name = false)
  (nested : Foresees library (call :: outer) expand)

include bound nested

theorem foreseeing_walkPattern (placeholders : Placeholders) {pattern : Pattern}
    (reports : library.Reports call.template
      (library.patternFaults owner pattern)) :
    (foreseeingAll library).MetBy (fun _ => True) (walkPattern stem
      (call :: outer) expand values placeholders pattern) := by
  cases pattern with
  | triple triple =>
      simp only [walkPattern]
      simp only [Library.patternFaults, Triple.terms, List.flatMap_cons,
        List.flatMap_nil, List.append_nil] at reports
      apply (foreseeing_bodyTerm bound placeholders reports.left).bind
      rintro ⟨subject, placeholders⟩ _
      apply (foreseeing_bodyTerm bound placeholders reports.right.left).bind
      rintro ⟨predicate, placeholders⟩ _
      apply (foreseeing_bodyTerm bound placeholders reports.right.right).bind
      rintro ⟨object, placeholders⟩ _
      apply (foreseeing_writeTriple stem subject predicate object).bind
      intro _ _
      exact .pure trivial
  | nested template arguments =>
      simp only [walkPattern]
      apply (foreseeing_argumentValue bound nested placeholders _ reports).bind
      rintro ⟨_, placeholders⟩ _
      exact .pure trivial

theorem foreseeing_walkBody (placeholders : Placeholders) {body : List Pattern}
    (reports : ∀ pattern ∈ body,
      library.Reports call.template (library.patternFaults owner pattern)) :
    (foreseeingAll library).MetBy (fun _ => True)
      (walkBody stem (call :: outer) expand values placeholders body) := by
  induction body generalizing placeholders with
  | nil => exact .pure trivial
  | cons pattern body induction =>
      obtain ⟨patternReports, bodyReports⟩ := List.forall_mem_cons.mp reports
      simp only [walkBody]
      apply (foreseeing_walkPattern bound nested placeholders
        patternReports).bind
      intro placeholders _
      exact induction placeholders bodyReports

end Body

/-! ## Calls -/

/-- A name without a value in a row is no parameter. -/
theorem declares_eq_false_of_rowValue {signature : Signature} {row : List Term}
    {name : String} (lengths : row.length = signature.parameters.length)
    (absent : rowValue signature.parameters row name = none) :
    signature.declares name = false := by
  simp only [rowValue, Option.map_eq_none_iff, List.find?_eq_none] at absent
  simp only [Signature.declares, List.any_eq_false]
  intro parameter member
  rw [← List.map_fst_zip (Nat.le_of_eq lengths.symm)] at member
  obtain ⟨pair, pairMember, rfl⟩ := List.mem_map.mp member
  exact absent pair pairMember

section Calls

variable {setting : Setting} {call : Instance} {outer : List Instance}
  {expand : Instance → Run Unit}
  (nested : Foresees setting.library (call :: outer) expand)

include nested

theorem foreseeing_expandRow {template : Template} {row : List Term}
    (defined : template ∈ setting.library.templates)
    (named : template.name = call.template)
    (lengths : row.length = template.signature.parameters.length) :
    (foreseeingAll setting.library).MetBy (fun _ => True)
      (expandRow setting.stem (call :: outer) expand template row) := by
  simp only [expandRow]
  split
  · exact .pure trivial
  · apply foreseeing_walkBody _ nested
    · intro pattern member
      rw [← named]
      exact Library.reports_pattern defined member
    · intro name absent
      exact declares_eq_false_of_rowValue
        (Expansion.length_fillRow lengths) absent

theorem foreseeing_expandEachRow {template : Template} {rows : List (List Term)}
    (defined : template ∈ setting.library.templates)
    (named : template.name = call.template)
    (lengths : ∀ row ∈ rows, row.length =
      template.signature.parameters.length) :
    (foreseeingAll setting.library).MetBy (fun _ => True)
      (expandEachRow setting.stem (call :: outer) expand template rows) := by
  induction rows with
  | nil => exact .pure trivial
  | cons row rows induction =>
      obtain ⟨rowLength, restLengths⟩ := List.forall_mem_cons.mp lengths
      apply (foreseeing_expandRow nested defined named rowLength).bind
      intro _ _
      exact induction restLengths

theorem foreseeing_expandCall
    (notTriple : call.template ≠ Vocabulary.ottrTriple) :
    (foreseeing setting.library
      (·.RefusesCall setting.library outer call)).MetBy
      (fun _ => True) (expandCall setting (call :: outer) expand call) := by
  have active : call :: outer =
      if call.template = Vocabulary.ottrTriple then outer else call :: outer :=
    (if_neg notTriple).symm
  unfold expandCall
  apply foreseeing_bindCheck
  · intro fault absent
    have refused :=
      Library.checkCall_of_lookup_error notTriple absent call.arguments.length
    exact Or.inr ⟨refused, active⟩
  intro template found
  have defined := Library.mem_templates_of_lookup found
  have named := Library.name_of_lookup found
  apply foreseeing_bindCheck
  · intro fault failed
    have refused :=
      Library.checkCall_of_lookup notTriple found call.arguments.length
    rw [checkArity_of_bindArguments failed] at refused
    exact Or.inr ⟨refused, active⟩
  intro filled boundArguments
  cases filled with
  | none => exact .pure trivial
  | some values =>
      apply foreseeing_bindCheck
      · intro fault failed
        exact Or.inl
          (Failure.foreseen_of_kind (by simp [checkArguments_kind failed]))
      intro _ _
      apply foreseeing_bindCheck
      · intro fault failed
        exact Or.inl
          (Failure.foreseen_of_kind (by simp [expandRows_kind failed]))
      intro rows expanded
      have lengths :
          ∀ row ∈ rows, row.length = template.signature.parameters.length := by
        intro row member
        rw [length_of_mem_expandRows expanded member,
          length_of_bindArguments boundArguments]
      exact foreseeing_of_all
        (foreseeing_expandEachRow nested defined named lengths)

end Calls

theorem foreseeing_writeTripleInstance {library : Library} {stem : String}
    {calls : List Instance} {inst : Instance}
    (isTriple : inst.template = Vocabulary.ottrTriple) :
    (foreseeing library (·.RefusesCall library calls inst)).MetBy
      (fun _ => True) (writeTripleInstance stem calls inst.arguments) := by
  obtain ⟨template, arguments⟩ := inst
  subst isTriple
  match arguments with
  | [subject, predicate, object] =>
      exact foreseeing_writeTriple stem subject predicate object
  | [] | [_] | [_, _] | _ :: _ :: _ :: _ :: _ =>
      exact foreseeing_fail (Or.inr ⟨by simp [Library.checkCall], rfl⟩)

theorem foresees_expandWithin (setting : Setting) (room : Nat)
    (calls : List Instance) :
    Foresees setting.library calls (expandWithin setting room calls) := by
  induction room generalizing calls with
  | zero =>
      intro inst
      by_cases isTriple : inst.template = Vocabulary.ottrTriple
      · rw [expandWithin_triple 0 isTriple]
        exact foreseeing_writeTripleInstance isTriple
      · cases accepted : setting.refuses calls inst with
        | true =>
            rw [expandWithin_refused 0 isTriple accepted]
            exact foreseeing_failOther (by simp [Fault.kind])
        | false =>
            rw [expandWithin_zero isTriple accepted]
            exact foreseeing_failOther (by simp [Fault.kind])
  | succ room induction =>
      intro inst
      by_cases isTriple : inst.template = Vocabulary.ottrTriple
      · rw [expandWithin_triple (room + 1) isTriple]
        exact foreseeing_writeTripleInstance isTriple
      · cases accepted : setting.refuses calls inst with
        | true =>
            rw [expandWithin_refused (room + 1) isTriple accepted]
            exact foreseeing_failOther (by simp [Fault.kind])
        | false =>
            rw [expandWithin_succ room isTriple accepted]
            exact foreseeing_expandCall (induction (inst :: calls)) isTriple

/-- A root that is itself wrong fails with no active calls, or within a single
one. -/
theorem not_blamesDefinition_of_refusesCall {library : Library} {given : String}
    {root : Instance} {failure : Failure}
    (resolved : library.resolveRoot given = .ok root.template)
    (refuses : failure.RefusesCall library [] root) :
    ¬failure.BlamesDefinition := by
  intro blames
  obtain ⟨refused, active⟩ := refuses
  unfold Failure.BlamesDefinition at blames
  rcases Library.checkCall_eq_error refused with
    ⟨isTriple, arity⟩ |
      ⟨notTriple, ⟨unknown, absent⟩ | ⟨parameters, reason, arity⟩⟩
  · rw [if_pos isTriple] at active
    rw [arity] at blames
    exact blames.1 active
  · have present := Library.hasInstances_of_resolveRoot resolved
    simp [Library.hasInstances, notTriple, Library.contains_eq_isSome_find?,
      absent] at present
  · rw [if_neg notTriple] at active
    rw [arity] at blames
    exact blames.2 root active rfl

theorem foreseen_of_expandRoot {setting : Setting} {root : Instance}
    {trail last : Trail} {failure : Failure}
    (ended : expandRoot setting root trail = .error failure last) :
    failure.Foreseen setting.library := by
  cases resolved : setting.library.resolveRoot root.template with
  | error fault =>
      obtain ⟨name, rfl⟩ := Library.resolveRoot_eq_error resolved
      rw [expandRoot_unresolved resolved] at ended
      cases ended
      intro blames
      exact absurd rfl blames
  | ok name =>
      cases isOpen : Term.firstVariableIn? root.arguments with
      | some variableName =>
          rw [expandRoot_open resolved isOpen] at ended
          cases ended
          intro blames
          exact absurd rfl blames
      | none =>
          rw [expandRoot_ground resolved isOpen] at ended
          have result := foresees_expandWithin setting setting.maxDepth []
            { root with template := name } trail trivial
          rw [ended] at result
          rcases result with foreseen | refuses
          · exact foreseen
          · intro blames
            exact absurd blames
              (not_blamesDefinition_of_refusesCall resolved refuses)

end Direct

/-- A root that fails because of a definition fails with a problem that
validation lists for the template at fault; so with a valid library no root
fails in this way. -/
theorem Expansion.outcome_foreseen (library : Library) (built : library.Built)
    (context : Context) (idle : context.calls = []) (root : Instance) :
    (∀ failure, (outcome library context root).result = .error failure →
      failure.BlamesDefinition →
      ∃ call, failure.origin? = some call ∧
        { template := call.template, fault := failure.fault : Problem } ∈
          library.problems) ∧
      (library.problems = [] →
        ∀ failure, (outcome library context root).result = .error failure →
          ¬failure.BlamesDefinition) := by
  have foreseen :
      ∀ failure, (outcome library context root).result = .error failure →
        failure.Foreseen library := by
    intro failure failed
    let setting : Direct.Setting := .ofContext library context
    have direct := Direct.outcome_eq_over setting built context.scopes root
      context.labels.allocated
    rw [← idle] at direct
    have failedDirectly :
        (Direct.outcome setting root context.labels.allocated).result =
          .error failure :=
      (congrArg Outcome.result direct).symm.trans failed
    obtain ⟨last, ended⟩ := Direct.expandRoot_eq_error failedDirectly
    exact Direct.foreseen_of_expandRoot ended
  refine ⟨foreseen, ?_⟩
  intro valid failure failed blames
  obtain ⟨call, _, listed⟩ := foreseen failure failed blames
  rw [valid] at listed
  cases listed

/-- Two templates at fault: a short one leaves out an argument, and a loose one
uses a variable of its own deep inside an argument. -/
def faultyTemplates : List Template :=
  [ { signature := { name := "Named",
                     parameters := [{ name := "of" }, { name := "name" }] }
      body := [.triple ⟨.var "of", .iri "name", .var "name"⟩] },
    { signature := { name := "Short", parameters := [{ name := "of" }] }
      body := [.nested "Named" [.term (.var "of")]] },
    { signature := { name := "Group", parameters := [{ name := "of" }] }
      body := [.nested "Short" [.term (.var "of")]] },
    { signature := { name := "Loose", parameters := [{ name := "of" }] }
      body :=
        [ .nested "Named"
            [ .nested "Named"
                [.term (.var "of"), .term (.list [.iri "a", .var "other"])],
              .term (.var "of") ] ] } ]

def faultyLibrary : Library :=
  { templates := faultyTemplates }

theorem faultyLibrary_built : faultyLibrary.Built := by
  have accepted : Library.ofTemplates faultyTemplates = .ok faultyLibrary := rfl
  exact Library.built_of_ofTemplates accepted

/-- The short template does not name what it is about. -/
def shortFailure : Failure :=
  { fault := .arityMismatch "Named" 2 1 "parameter ?name has no default"
    calls :=
      [⟨"Named", [.iri "p"]⟩, ⟨"Short", [.iri "p"]⟩, ⟨"Group", [.iri "p"]⟩] }

/-- The loose template has no parameter of this name. -/
def looseFailure : Failure :=
  { fault := .unboundVariable "other", calls := [⟨"Loose", [.iri "p"]⟩] }

theorem Expansion.outcome_group :
    faultyLibrary.Built ∧
      (outcome faultyLibrary (.ofOptions { blankStem := some "b" } 0)
          ⟨"Group", [.iri "p"]⟩).result = .error shortFailure ∧
      shortFailure.BlamesDefinition ∧
      (∃ call, shortFailure.origin? = some call ∧
        { template := call.template, fault := shortFailure.fault : Problem } ∈
          faultyLibrary.problems) ∧
      (outcome faultyLibrary (.ofOptions { blankStem := some "b" } 0)
          ⟨"Loose", [.iri "p"]⟩).result = .error looseFailure ∧
      looseFailure.BlamesDefinition ∧
      ∃ call, looseFailure.origin? = some call ∧
        { template := call.template, fault := looseFailure.fault : Problem } ∈
          faultyLibrary.problems := by
  have short : (outcome faultyLibrary (.ofOptions { blankStem := some "b" } 0)
      ⟨"Group", [.iri "p"]⟩).result = .error shortFailure := by
    decide +kernel
  have loose : (outcome faultyLibrary (.ofOptions { blankStem := some "b" } 0)
      ⟨"Loose", [.iri "p"]⟩).result = .error looseFailure := by
    decide +kernel
  have shortBlames : shortFailure.BlamesDefinition :=
    ⟨by simp [shortFailure], by simp [shortFailure]⟩
  have looseBlames : looseFailure.BlamesDefinition := by
    simp [Failure.BlamesDefinition, looseFailure]
  have foreseen := outcome_foreseen faultyLibrary faultyLibrary_built
    (.ofOptions { blankStem := some "b" } 0) rfl
  exact ⟨faultyLibrary_built, short, shortBlames,
    (foreseen _).1 _ short shortBlames, loose, looseBlames,
    (foreseen _).1 _ loose looseBlames⟩

end RdfTemplates
