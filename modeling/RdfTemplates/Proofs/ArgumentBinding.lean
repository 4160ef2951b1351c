import RdfTemplates.Proofs.Library.Construction
import RdfTemplates.Proofs.Repetitions

/-!
# Binding of arguments

The number of arguments is checked before they are lined up with the parameters.
When they are, each parameter has the argument in its position, or all remaining
ones if it collects them, and falls back on its default.  So a parameter that
must be given a value is either refused as missing or has been given the absent
value.  Only a parameter that is declared to collect arguments, but is not the
last one, escapes both: it does not collect anything, and it is not required
either.
-/

namespace RdfTemplates

/-! ## Positions -/

/-- Whether the parameter in a position is the last one and collects the
remaining arguments. -/
def collectsAt (parameters : List Parameter) (position : Nat) : Bool :=
  match parameters.drop position with
  | [last] => last.variadic
  | _ => false

/-- What is given to the parameter in a position, if anything. -/
def givenAt? (parameters : List Parameter) (arguments : List Term)
    (position : Nat) : Option Term :=
  if collectsAt parameters position then some (.list (arguments.drop position))
  else arguments[position]?

/-- The parameter in a position must be given a value: nothing else can stand
for it. -/
structure DemandsAt (parameters : List Parameter) (position : Nat)
    (parameter : Parameter) : Prop where
  declared : parameters[position]? = some parameter
  noDefault : parameter.default = none
  notOptional : parameter.optional = false
  single : collectsAt parameters position = false

/-- Where the value of the parameter in a position comes from. -/
inductive BoundAt (parameters : List Parameter) (arguments : List Term)
    (position : Nat) (parameter : Parameter) : Term → Prop where
  | collected (collects : collectsAt parameters position = true) :
      BoundAt parameters arguments position parameter
        (.list (arguments.drop position))
  | given {value : Term} (single : collectsAt parameters position = false)
      (supplied : arguments[position]? = some value) (present : value ≠ .none) :
      BoundAt parameters arguments position parameter value
  | default {value : Term} (single : collectsAt parameters position = false)
      (lacking : arguments[position]? = none ∨
        arguments[position]? = some .none)
      (default : parameter.default = some value) :
      BoundAt parameters arguments position parameter value
  | absent (single : collectsAt parameters position = false)
      (lacking : arguments[position]? = none ∨
        arguments[position]? = some .none)
      (noDefault : parameter.default = none)
      (optional : parameter.optional = true) :
      BoundAt parameters arguments position parameter .none

theorem collectsAt_zero (parameter : Parameter) (parameters : List Parameter) :
    collectsAt (parameter :: parameters) 0 =
      (parameter.variadic && parameters.isEmpty) := by
  cases parameters <;> simp [collectsAt]

theorem givenAt?_zero (parameter : Parameter) (parameters : List Parameter)
    (arguments : List Term) :
    givenAt? (parameter :: parameters) arguments 0 =
      if parameter.variadic && parameters.isEmpty then some (.list arguments)
      else arguments.head? := by
  rw [givenAt?, collectsAt_zero, List.drop_zero, List.head?_eq_getElem?]

theorem givenAt?_succ (parameter : Parameter) (parameters : List Parameter)
    (arguments : List Term) (position : Nat) :
    givenAt? (parameter :: parameters) arguments (position + 1) =
      givenAt? parameters arguments.tail position := by
  have sameCollector : collectsAt (parameter :: parameters) (position + 1) =
      collectsAt parameters position := rfl
  simp only [givenAt?, sameCollector, List.drop_tail, List.getElem?_tail]

theorem collectsAt_last {parameters : List Parameter} {position : Nat}
    {parameter : Parameter} (declared : parameters[position]? = some parameter)
    (last : parameters.length ≤ position + 1) :
    collectsAt parameters position = parameter.variadic := by
  obtain ⟨within, rfl⟩ := List.getElem?_eq_some_iff.mp declared
  have rest : parameters.drop (position + 1) = [] := List.drop_eq_nil_of_le last
  rw [collectsAt, List.drop_eq_getElem_cons within, rest]

/-! ## Values -/

theorem boundAt_of_valueFor {parameters : List Parameter}
    {arguments : List Term} {position : Nat} {parameter : Parameter}
    {value : Term}
    (valued : parameter.valueFor (givenAt? parameters arguments position) =
      some value) :
    BoundAt parameters arguments position parameter value := by
  cases collects : collectsAt parameters position with
  | true =>
      rw [givenAt?, if_pos collects, Parameter.valueFor_of_present (by simp)]
        at valued
      cases valued
      exact .collected collects
  | false =>
      simp only [givenAt?, collects, Bool.false_eq_true, ↓reduceIte] at valued
      by_cases lacking : arguments[position]? = none ∨
        arguments[position]? = some .none
      · rw [Parameter.valueFor_of_lacking lacking] at valued
        cases default : parameter.default with
        | some other =>
            rw [default, Option.some_or] at valued
            exact .default collects lacking (default.trans valued)
        | none =>
            rw [default, Option.none_or] at valued
            by_cases optional : parameter.optional = true
            · rw [if_pos optional] at valued
              cases valued
              exact .absent collects lacking default optional
            · rw [if_neg optional] at valued
              cases valued
      · obtain ⟨supplied, found⟩ :=
          Option.ne_none_iff_exists'.mp (not_or.mp lacking).1
        have present : supplied ≠ .none := by simpa [found] using lacking
        rw [found, Parameter.valueFor_of_present present] at valued
        cases valued
        exact .given collects found present

theorem getElem?_bindValues {parameters : List Parameter}
    {arguments values : List Term}
    (bound : bindValues parameters arguments = some values) {position : Nat}
    {parameter : Parameter}
    (declared : parameters[position]? = some parameter) :
    ∃ value, values[position]? = some value ∧
      parameter.valueFor (givenAt? parameters arguments position) =
        some value := by
  induction parameters generalizing arguments values position with
  | nil => cases declared
  | cons first parameters induction =>
      simp only [bindValues] at bound
      split at bound
      · cases bound
      · rename_i value valued
        obtain ⟨rest, restBound, rfl⟩ := Option.map_eq_some_iff.mp bound
        cases position with
        | zero =>
            cases declared
            rw [givenAt?_zero]
            exact ⟨value, rfl, valued⟩
        | succ position =>
            rw [givenAt?_succ]
            exact induction restBound declared

theorem lacking_of_bindValues {parameters : List Parameter}
    {arguments : List Term} (skipped : bindValues parameters arguments = none) :
    ∃ (position : Nat) (parameter : Parameter),
      parameters[position]? = some parameter ∧
        parameter.valueFor (givenAt? parameters arguments position) = none := by
  induction parameters generalizing arguments with
  | nil => cases skipped
  | cons first parameters induction =>
      simp only [bindValues] at skipped
      split at skipped
      · rename_i lacking
        refine ⟨0, first, rfl, ?_⟩
        rw [givenAt?_zero]
        exact lacking
      · obtain ⟨position, parameter, declared, lacking⟩ :=
          induction (Option.map_eq_none_iff.mp skipped)
        refine ⟨position + 1, parameter, declared, ?_⟩
        rw [givenAt?_succ]
        exact lacking

/-! ## Number of arguments -/

theorem Signature.checkArity_eq_ok_iff {signature : Signature} {count : Nat} :
    signature.checkArity count = .ok () ↔
      (∀ parameter ∈ signature.parameters.drop count,
        parameter.isRequired = false) ∧
        (signature.parameters.length < count →
          signature.isVariadic = true) := by
  unfold checkArity
  cases missing : (signature.parameters.drop count).find? (·.isRequired) with
  | some parameter =>
      have required := List.find?_some missing
      have later := List.mem_of_find?_eq_some missing
      simp only [reduceCtorEq, false_iff, not_and]
      intro noneRequired
      rw [noneRequired parameter later] at required
      cases required
  | none =>
      have noneRequired := List.find?_eq_none.mp missing
      simp only [Bool.not_eq_true] at noneRequired
      by_cases surplus : signature.parameters.length < count
      · cases isVariadic : signature.isVariadic with
        | true => simpa [surplus] using noneRequired
        | false => simp [surplus]
      · simpa [surplus] using noneRequired

/-- The number of arguments does not fit the signature. -/
def Signature.Refuses (signature : Signature) (arguments : List Term) : Prop :=
  ∃ reason, bindArguments signature arguments =
    .error (.arityMismatch signature.name signature.parameters.length
      arguments.length reason)

theorem Signature.refuses_of_checkArity {signature : Signature}
    {arguments : List Term}
    (refused : signature.checkArity arguments.length ≠ .ok ()) :
    signature.Refuses arguments := by
  cases checked : signature.checkArity arguments.length with
  | ok accepted => exact absurd checked refused
  | error fault =>
      obtain ⟨reason, rfl⟩ := checkArity_eq_error checked
      refine ⟨reason, ?_⟩
      rw [bindArguments, checked]

theorem Signature.refuses_of_missing {signature : Signature}
    {arguments : List Term} {position : Nat} {parameter : Parameter}
    (declared : signature.parameters[position]? = some parameter)
    (required : parameter.isRequired = true)
    (missing : arguments.length ≤ position) : signature.Refuses arguments := by
  apply refuses_of_checkArity
  intro accepted
  have later : parameter ∈ signature.parameters.drop arguments.length := by
    apply List.mem_of_getElem? (i := position - arguments.length)
    rw [List.getElem?_drop, Nat.add_sub_cancel' missing]
    exact declared
  rw [(checkArity_eq_ok_iff.mp accepted).1 parameter later] at required
  cases required

/-! ## Binding -/

/-- An instance is skipped only because of a parameter that must be given a
value. -/
theorem demandsAt_of_skipped {signature : Signature} {arguments : List Term}
    (skipped : bindArguments signature arguments = .ok none) :
    ∃ position parameter, DemandsAt signature.parameters position parameter ∧
      (arguments[position]? = some .none ∨
        (arguments.length ≤ position ∧ parameter.variadic = true)) := by
  unfold bindArguments at skipped
  split at skipped
  · rename_i accepted
    obtain ⟨position, parameter, declared, valueless⟩ :=
      lacking_of_bindValues (Except.ok.inj skipped)
    obtain ⟨lacking, noDefault, notOptional⟩ :=
      Parameter.valueFor_eq_none_iff.mp valueless
    have single : collectsAt signature.parameters position = false := by
      cases collects : collectsAt signature.parameters position with
      | true => simp [givenAt?, collects] at lacking
      | false => rfl
    refine ⟨position, parameter, ⟨declared, noDefault, notOptional, single⟩, ?_⟩
    simp only [givenAt?, single, Bool.false_eq_true, ↓reduceIte] at lacking
    rcases lacking with missing | absent
    · right
      have missing := List.getElem?_eq_none_iff.mp missing
      refine ⟨missing, ?_⟩
      by_cases variadic : parameter.variadic = true
      · exact variadic
      · -- The check of the number of arguments would have refused the instance.
        have required : parameter.isRequired = true := by
          simpa [Parameter.isRequired, noDefault, notOptional] using variadic
        obtain ⟨reason, refused⟩ :=
          Signature.refuses_of_missing declared required missing
        rw [bindArguments, accepted] at refused
        cases refused
    · exact Or.inl absent
  · cases skipped

theorem not_bound_of_demandsAt {signature : Signature}
    {arguments values : List Term} {position : Nat} {parameter : Parameter}
    (demands : DemandsAt signature.parameters position parameter)
    (missing : arguments.length ≤ position) :
    bindArguments signature arguments ≠ .ok (some values) := by
  intro bound
  unfold bindArguments at bound
  split at bound
  · obtain ⟨value, _, valued⟩ :=
      getElem?_bindValues (Except.ok.inj bound) demands.declared
    rw [givenAt?, demands.single, List.getElem?_eq_none missing] at valued
    rw [Parameter.valueFor_eq_none_iff.mpr
      ⟨Or.inl (by simp), demands.noDefault, demands.notOptional⟩] at valued
    cases valued
  · cases bound

/-- Binding loses no argument, and skips an instance only because of an absent
value that it was given, unless a parameter before the last one is declared to
collect arguments: without an argument such a parameter is neither refused as
missing nor has it a value. -/
theorem bindArguments_complete (signature : Signature) (arguments : List Term) :
    (bindArguments signature arguments = .ok none →
      ∃ position parameter, DemandsAt signature.parameters position parameter ∧
        (arguments[position]? = some .none ∨
          (arguments.length ≤ position ∧ parameter.variadic = true))) ∧
      (∀ position parameter, DemandsAt signature.parameters position parameter →
        arguments.length ≤ position →
        (parameter.variadic = false → signature.Refuses arguments) ∧
          ∀ values, bindArguments signature arguments ≠ .ok (some values)) ∧
      (signature.parameters.length < arguments.length →
        signature.isVariadic = false → signature.Refuses arguments) ∧
      (∀ values, bindArguments signature arguments = .ok (some values) →
        values.length = signature.parameters.length ∧
          ∀ position parameter, signature.parameters[position]? =
            some parameter →
            ∃ value, values[position]? = some value ∧
              BoundAt signature.parameters arguments position parameter value) ∧
      ((∀ parameter ∈ signature.parameters.dropLast,
        parameter.variadic = false) →
        (bindArguments signature arguments = .ok none →
          ∃ position parameter,
            DemandsAt signature.parameters position parameter ∧
              arguments[position]? = some .none) ∧
          ∀ position parameter,
            DemandsAt signature.parameters position parameter →
              arguments.length ≤ position → signature.Refuses arguments) := by
  have refused {position : Nat} {parameter : Parameter}
      (demands : DemandsAt signature.parameters position parameter)
      (missing : arguments.length ≤ position)
      (notVariadic : parameter.variadic = false) :
      signature.Refuses arguments := by
    have required : parameter.isRequired = true := by
      simp [Parameter.isRequired, demands.noDefault, demands.notOptional,
        notVariadic]
    exact Signature.refuses_of_missing demands.declared required missing
  refine ⟨demandsAt_of_skipped, ?_, ?_, ?_, ?_⟩
  · intro position parameter demands missing
    constructor
    · exact refused demands missing
    · intro values
      exact not_bound_of_demandsAt demands missing
  · intro surplus notVariadic
    apply Signature.refuses_of_checkArity
    intro accepted
    rw [(Signature.checkArity_eq_ok_iff.mp accepted).2 surplus] at notVariadic
    cases notVariadic
  · intro values bound
    constructor
    · exact length_of_bindArguments bound
    · intro position parameter declared
      obtain ⟨value, found, valued⟩ :=
        getElem?_bindValues (bindValues_of_bindArguments bound) declared
      exact ⟨value, found, boundAt_of_valueFor valued⟩
  · intro onlyLast
    have notVariadic {position : Nat} {parameter : Parameter}
        (demands : DemandsAt signature.parameters position parameter) :
        parameter.variadic = false := by
      by_cases last : signature.parameters.length ≤ position + 1
      · rw [← collectsAt_last demands.declared last]
        exact demands.single
      · apply onlyLast
        apply List.mem_of_getElem? (i := position)
        rw [List.getElem?_dropLast, if_pos (by omega)]
        exact demands.declared
    constructor
    · intro skipped
      obtain ⟨position, parameter, demands, absent | ⟨_, variadic⟩⟩ :=
        demandsAt_of_skipped skipped
      · exact ⟨position, parameter, demands, absent⟩
      · rw [notVariadic demands] at variadic
        cases variadic
    · intro position parameter demands missing
      exact refused demands missing (notVariadic demands)

/-- A line of a play: who says it, to whom, in which tone, and its words. -/
def lineSignature : Signature where
  name := "Line"
  parameters :=
    [ { name := "speaker" },
      { name := "listener", optional := true },
      { name := "tone", default := some (.string "plain") },
      { name := "words", variadic := true } ]

theorem bindArguments_line :
    (∀ parameter ∈ lineSignature.parameters.dropLast,
      parameter.variadic = false) ∧
      bindArguments lineSignature [.none, .iri "ann"] = .ok none ∧
      (∃ position parameter,
        DemandsAt lineSignature.parameters position parameter ∧
          [Term.none, .iri "ann"][position]? = some .none) ∧
      lineSignature.Refuses [] ∧
      bindArguments lineSignature
        [.iri "bob", .none, .none, .string "to", .none, .string "be"] =
        .ok (some [ .iri "bob", .none, .string "plain",
          .list [.string "to", .none, .string "be"] ]) ∧
      BoundAt lineSignature.parameters
        [.iri "bob", .none, .none, .string "to", .none, .string "be"] 3
        { name := "words", variadic := true }
        (.list [.string "to", .none, .string "be"]) := by
  have onlyLast : ∀ parameter ∈ lineSignature.parameters.dropLast,
      parameter.variadic = false := by
    decide
  have skipped :
      bindArguments lineSignature [.none, .iri "ann"] = .ok none := rfl
  have bound : bindArguments lineSignature
      [.iri "bob", .none, .none, .string "to", .none, .string "be"] =
      .ok (some [.iri "bob", .none, .string "plain",
        .list [.string "to", .none, .string "be"]]) := rfl
  have refused : lineSignature.Refuses [] :=
    ((bindArguments_complete lineSignature []).2.2.2.2 onlyLast).2 0 _
      ⟨rfl, rfl, rfl, rfl⟩ (Nat.zero_le 0)
  have absent :=
    ((bindArguments_complete lineSignature [.none, .iri "ann"]).2.2.2.2
      onlyLast).1 skipped
  obtain ⟨value, found, words⟩ := ((bindArguments_complete lineSignature
    [.iri "bob", .none, .none, .string "to", .none, .string "be"]).2.2.2.1
    _ bound).2
    3 _ rfl
  cases found
  exact ⟨onlyLast, skipped, absent, refused, bound, words⟩

/-- The first of two parameters is declared to collect arguments. -/
def strayCollector : Signature where
  name := "T"
  parameters :=
    [{ name := "x", variadic := true }, { name := "y", optional := true }]

def strayCollectorLibrary : Library where
  templates := [{ signature := strayCollector,
                  body := [.triple ⟨.iri "a", .iri "p", .iri "b"⟩] }]

/-- The parameter must be given a value and no argument is supplied, absent or
not.  Still the instance is not refused, but skipped. -/
theorem bindArguments_strayCollector :
    DemandsAt strayCollector.parameters 0 { name := "x", variadic := true } ∧
      bindArguments strayCollector [] = .ok none ∧ ¬strayCollector.Refuses [] ∧
      (∀ position : Nat, ([] : List Term)[position]? ≠ some .none) ∧
      strayCollectorLibrary.Built ∧
      (Expansion.outcome strayCollectorLibrary
        (.ofOptions { blankStem := some "b" } 0) ⟨"T", []⟩).result =
        .ok [] := by
  have skipped : bindArguments strayCollector [] = .ok none := rfl
  have accepted : Library.ofTemplates strayCollectorLibrary.templates =
      .ok strayCollectorLibrary := rfl
  refine ⟨⟨rfl, rfl, rfl, rfl⟩, skipped, ?_, ?_,
    Library.built_of_ofTemplates accepted, by decide +kernel⟩
  · intro refused
    obtain ⟨reason, refused⟩ := refused
    rw [skipped] at refused
    cases refused
  · intro position
    simp

end RdfTemplates
