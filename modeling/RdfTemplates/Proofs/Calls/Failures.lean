import RdfTemplates.Proofs.Checks
import RdfTemplates.Proofs.Direct.Emission
import RdfTemplates.Proofs.Direct.Walk
import RdfTemplates.Proofs.Validation.Problems

/-!
# How instances fail

The expansion of an instance fails because its call is refused, because of
something in the call itself, or because an instance named in its body fails
inside the call.
-/

namespace RdfTemplates

/-- Whether a fault is that a call cannot be made, and not something that is
wrong in it. -/
def Fault.isRefusal : Fault → Bool
  | .unknownTemplate _ | .cyclicExpansion _ | .depthExceeded _ => true
  | _ => false

theorem Fault.isRefusal_of_kind {fault : Fault}
    (argument : fault.kind = .argument) : fault.isRefusal = false := by
  cases fault with
  | unknownTemplate | cyclicExpansion | depthExceeded => cases argument
  | _ => rfl

theorem isRefusal_of_bindArguments {signature : Signature}
    {arguments : List Term} {fault : Fault}
    (failed : bindArguments signature arguments = .error fault) :
    fault.isRefusal = false := by
  obtain ⟨_, rfl⟩ :=
    Signature.checkArity_eq_error (checkArity_of_bindArguments failed)
  rfl

namespace Direct

/-- How the expansion of an instance inside active calls can end in a
failure. -/
inductive Fails (setting : Setting) :
    List Instance → Instance → Failure → Prop where
  /-- A triple is wrong. -/
  | triple {calls inst fault} : inst.template = Vocabulary.ottrTriple →
      fault.isRefusal = false → Fails setting calls inst ⟨fault, calls⟩
  /-- The instance is active already. -/
  | repeated {calls inst} :
      inst ∈ calls → Fails setting calls inst ⟨.cyclicExpansion inst, calls⟩
  /-- No further call may become active. -/
  | full {calls inst} : calls.length = setting.maxDepth →
      Fails setting calls inst ⟨.depthExceeded setting.maxDepth, calls⟩
  | unknown {calls inst} : setting.Enters calls inst →
      setting.library.find? inst.template = none →
      Fails setting calls inst ⟨.unknownTemplate inst.template, inst :: calls⟩
  /-- Something is wrong in the call itself. -/
  | inside {calls inst template fault} :
      setting.Enters calls inst →
        setting.library.find? inst.template = some template →
        fault.isRefusal = false →
        Fails setting calls inst ⟨fault, inst :: calls⟩
  /-- An instance in the body fails. -/
  | nested {calls inst callee failure} :
      setting.Enters calls inst →
        setting.library.Calls inst.template callee.template →
        Fails setting (inst :: calls) callee failure →
        Fails setting calls inst failure

theorem isRefusal_of_writeTriple {stem : String} {calls : List Instance}
    {subject predicate object : Term} {trail last : Trail} {failure : Failure}
    (ended : writeTriple stem calls subject predicate object trail =
      .error failure last) :
    ∃ fault, fault.isRefusal = false ∧ failure = ⟨fault, calls⟩ := by
  have refusing : (refusingTerms calls fun _ => True).MetBy (fun _ => True)
      (writeTriple stem calls subject predicate object) :=
    refusingTerms_writeTriple (fun _ _ _ => trivial) trivial trivial trivial
  have result := refusing trail trivial
  rw [ended] at result
  obtain ⟨position, term, reason, rfl, _⟩ := result
  exact ⟨_, rfl, rfl⟩

/-- What is asked of the runs inside a call: they fail by something wrong in the
call, or as an instance of one of the names fails. -/
def failing (setting : Setting) (calls : List Instance) (names : List String) :
    Course Trail where
  states _ := True
  failures failure _ :=
    (∃ fault, fault.isRefusal = false ∧ failure = ⟨fault, calls⟩) ∨
      ∃ inst, inst.template ∈ names ∧ Fails setting calls inst failure
  later _ _ := True
  refl _ := trivial
  trans _ _ := trivial

section Walk

variable {setting : Setting} {calls : List Instance} {names : List String}
  {origin : Trail}

theorem failing_bodyTerm (values : String → Option Term)
    (placeholders : Placeholders) (term : Term) :
    (failing setting calls names).MetFrom origin (fun _ _ => True)
      (bodyTerm setting.stem calls values placeholders term) := by
  intro trail _ _
  simp only [bodyTerm]
  split
  · exact ⟨trivial, trivial, trivial⟩
  · exact Or.inl ⟨_, rfl, rfl⟩

theorem failing_writeTriple (subject predicate object : Term) :
    (failing setting calls names).MetFrom origin (fun _ _ => True)
      (writeTriple setting.stem calls subject predicate object) := by
  intro trail _ _
  cases ended :
    writeTriple setting.stem calls subject predicate object trail with
  | ok value last => exact ⟨trivial, trivial, trivial⟩
  | error failure last => exact Or.inl (isRefusal_of_writeTriple ended)

/-- A check can fail, and its result can be used in what follows. -/
theorem failing_bindCheck {α β : Type} {checked : Except Fault α}
    {rest : α → Run β}
    (own : ∀ fault, checked = .error fault → fault.isRefusal = false)
    (continues : ∀ value, checked = .ok value →
      (failing setting calls names).MetFrom origin (fun _ _ => True)
        (rest value)) :
    (failing setting calls names).MetFrom origin (fun _ _ => True)
      (check calls checked >>= rest) := by
  cases result : checked with
  | error fault =>
      intro _ _ _
      exact Or.inl ⟨fault, own fault result, rfl⟩
  | ok value => exact continues value result

variable {expand : Instance → Run Unit}

theorem failing_walks (values : String → Option Term)
    (nested : ∀ inst, inst.template ∈ names →
      (failing setting calls names).MetFrom origin (fun _ _ => True)
        (expand inst)) :
    Walks (failing setting calls names) origin setting.stem calls expand values
      names (fun _ _ => True) (fun _ _ => True) where
  lasts _ _ := trivial
  knownLasts _ _ := trivial
  unused := trivial
  absent _ := trivial
  bodyTerm term _ _ :=
    (failing_bodyTerm values _ term).weaken fun _ _ _ => ⟨trivial, trivial⟩
  writeTriple _ _ _ _ := failing_writeTriple _ _ _
  nested _ called _ := (nested _ called).after trivial

theorem failing_expandEachRow {template : Template}
    (nested : ∀ inst, inst.template ∈ template.calledNames →
      (failing setting calls template.calledNames).MetFrom origin
        (fun _ _ => True) (expand inst))
    (rows : List (List Term)) :
    (failing setting calls template.calledNames).MetFrom origin
      (fun _ _ => True)
      (expandEachRow setting.stem calls expand template rows) := by
  apply metFrom_expandEachRow
  intro row _
  exact metFrom_expandRow (failing_walks _ nested)

end Walk

/-- Runs that fail as an instance fails. -/
def FailsAs (setting : Setting) (calls : List Instance) (inst : Instance)
    (run : Run Unit) : Prop :=
  ∀ trail failure last, run trail = .error failure last →
    Fails setting calls inst failure

theorem failsAs_fail {setting : Setting} {calls active : List Instance}
    {inst : Instance} {fault : Fault}
    (fails : Fails setting calls inst ⟨fault, active⟩) :
    FailsAs setting calls inst (fail active fault) := by
  intro trail failure last ended
  cases ended
  exact fails

theorem failsAs_expandCall {setting : Setting} {calls : List Instance}
    {inst : Instance} {expand : Instance → Run Unit}
    (entered : setting.Enters calls inst)
    (nested : ∀ callee,
      FailsAs setting (inst :: calls) callee (expand callee)) :
    FailsAs setting calls inst
      (expandCall setting (inst :: calls) expand inst) := by
  cases isFound : setting.library.find? inst.template with
  | none =>
      have absent : setting.library.lookup inst.template =
          .error (.unknownTemplate inst.template) := by
        rw [Library.lookup, isFound]
      rw [expandCall, absent]
      exact failsAs_fail (.unknown entered isFound)
  | some template =>
      have found : setting.library.lookup inst.template = .ok template := by
        rw [Library.lookup, isFound]
      have met : (failing setting (inst :: calls) template.calledNames).MetFrom
          {} (fun _ _ => True)
          (expandCall setting (inst :: calls) expand inst) := by
        rw [expandCall, found]
        apply failing_bindCheck
        · intro fault impossible
          cases impossible
        intro _ same
        cases same
        apply failing_bindCheck
        · intro fault failed
          exact isRefusal_of_bindArguments failed
        intro filled _
        cases filled with
        | none =>
            apply Course.MetFrom.pure
            intro _ _
            trivial
        | some values =>
            apply failing_bindCheck
            · intro fault failed
              exact Fault.isRefusal_of_kind (checkArguments_kind failed)
            intro _ _
            apply failing_bindCheck
            · intro fault failed
              exact Fault.isRefusal_of_kind (expandRows_kind failed)
            intro rows _
            apply failing_expandEachRow
            intro callee called trail _ _
            cases ended : expand callee trail with
            | ok value last => exact ⟨trivial, trivial, trivial⟩
            | error failure last =>
                exact Or.inr
                  ⟨callee, called, nested callee trail failure last ended⟩
      intro trail failure last ended
      have result := met trail trivial trivial
      rw [ended] at result
      rcases result with ⟨fault, own, rfl⟩ | ⟨callee, called, fails⟩
      · exact .inside entered isFound own
      · exact .nested entered ⟨template, isFound, called⟩ fails

theorem failsAs_writeTripleInstance {setting : Setting} {calls : List Instance}
    {inst : Instance} (isTriple : inst.template = Vocabulary.ottrTriple) :
    FailsAs setting calls inst
      (writeTripleInstance setting.stem calls inst.arguments) := by
  match arguments : inst.arguments with
  | [subject, predicate, object] =>
      intro trail failure last ended
      obtain ⟨fault, own, rfl⟩ := isRefusal_of_writeTriple ended
      exact .triple isTriple own
  | [] | [_] | [_, _] | _ :: _ :: _ :: _ :: _ =>
      exact failsAs_fail (.triple isTriple rfl)

theorem failsAs_refused {setting : Setting} {calls : List Instance}
    {inst : Instance} (refused : setting.refuses calls inst = true) :
    FailsAs setting calls inst (fail calls (.cyclicExpansion inst)) := by
  simp only [Setting.refuses, Bool.and_eq_true, List.contains_iff_mem]
    at refused
  exact failsAs_fail (.repeated refused.2)

/-- The expansion of an instance fails in one of these ways only. -/
theorem failsAs_expandWithin (setting : Setting) (room : Nat)
    (calls : List Instance) (inst : Instance)
    (bounded : room + calls.length = setting.maxDepth) :
    FailsAs setting calls inst (expandWithin setting room calls inst) := by
  apply expandWithin_induction
    (motive := FailsAs setting) failsAs_writeTripleInstance
    failsAs_refused _ failsAs_expandCall room calls inst bounded
  intro calls inst full
  exact failsAs_fail (.full full)

end Direct

end RdfTemplates
