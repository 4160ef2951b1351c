import RdfTemplates.Proofs.CycleTest.Outcomes

/-!
# Lenient options

The depth limit and the type checks refuse instances and do nothing else.  So an
expansion that they let through is the same under options that refuse less, and
so is one that fails for another reason.
-/

namespace RdfTemplates

/-- Whether a fault is found by the depth limit or by the type checks, so that
it depends on the options. -/
def Fault.isOfOptions : Fault → Bool
  | .depthExceeded _ | .typeMismatch .. => true
  | .unknownTemplate _ | .duplicateTemplate _ | .arityMismatch .. |
      .listLengthMismatch ..
  | .unboundVariable _ | .duplicateBinding _ | .deadScope _ | .cyclicExpansion _
  | .blankNodeNotAllowed .. | .invalidTriple .. => false

section Checks

variable {strict lenient : Bool} (relaxed : lenient = true → strict = true)

include relaxed

theorem checkArgument_relaxed (template : String) (parameter : Parameter)
    (value : Term) :
    checkArgument template parameter lenient value =
      checkArgument template parameter strict value ∨
      ∃ fault, checkArgument template parameter strict value = .error fault ∧
        fault.isOfOptions = true := by
  cases strict with
  | false =>
      have unchecked : lenient = false := by simpa using relaxed
      exact Or.inl (by rw [unchecked])
  | true =>
      cases lenient with
      | true => exact Or.inl rfl
      | false =>
          simp only [checkArgument]
          split
          · exact Or.inl rfl
          · cases parameter.type with
            | none => exact Or.inl rfl
            | some type =>
                cases offending : parameter.offending? type value with
                | none => exact Or.inl (by simp [offending])
                | some actual =>
                    refine Or.inr
                      ⟨.typeMismatch template parameter.name type.text actual,
                        ?_, rfl⟩
                    simp [offending]

theorem checkArguments_relaxed (template : String) (parameters : List Parameter)
    (values : List Term) :
    checkArguments template lenient parameters values =
        checkArguments template strict parameters values ∨
      ∃ fault, checkArguments template strict parameters values = .error fault ∧
        fault.isOfOptions = true := by
  induction parameters generalizing values with
  | nil => exact Or.inl rfl
  | cons parameter parameters induction =>
      cases values with
      | nil => exact Or.inl rfl
      | cons value values =>
          simp only [checkArguments]
          rcases checkArgument_relaxed relaxed template parameter value with
            same | ⟨fault, failed, ofOptions⟩
          · rw [same]
            cases checkArgument template parameter strict value with
            | ok _ => exact induction values
            | error _ => exact Or.inl rfl
          · exact Or.inr ⟨fault, by rw [failed], ofOptions⟩

end Checks

namespace Direct

/-- The setting with another depth limit and other type checks. -/
def Setting.withOptions (setting : Setting) (maxDepth : Nat)
    (checkTypes : Bool) : Setting :=
  { setting with maxDepth, checkTypes }

/-- Runs that are identical until the first one is refused something by its
options. -/
def Correspondence.untilRejected (stem : String) : Correspondence :=
  { identical stem with
    leftExcused := fun failure => failure.fault.isOfOptions = true }

section Runs

variable {stem : String} {calls : List Instance} {α : Type}

theorem agree_self (run : Run α) :
    (Correspondence.untilRejected stem).Agree Eq run run := by
  intro leftTrail rightTrail ⟨counts, outputs⟩
  have sameTrail : leftTrail = rightTrail := by
    obtain ⟨allocated, triples⟩ := leftTrail
    obtain ⟨_, _⟩ := rightTrail
    cases counts
    cases outputs
    rfl
  subst sameTrail
  cases ended : run leftTrail with
  | ok value last => exact ⟨rfl, rfl, rfl⟩
  | error failure last => exact Or.inr (Or.inr ⟨rfl, rfl⟩)

theorem inside_untilRejected :
    (Correspondence.untilRejected stem).Inside calls calls := by
  intro left right ⟨faults, _⟩
  rw [faults.eq_of_eq]
  exact Or.inr (Or.inr rfl)

end Runs

section Instances

variable {setting : Setting} {maxDepth : Nat} {checkTypes : Bool}
  (relaxed : checkTypes = true → setting.checkTypes = true)

include relaxed

theorem expandCall_relaxed (calls : List Instance)
    {expand lenientExpand : Instance → Run Unit}
    (nested : ∀ callee, (Correspondence.untilRejected setting.stem).Agree Eq
      (expand callee) (lenientExpand callee)) (call : Instance) :
    (Correspondence.untilRejected setting.stem).Agree Eq
      (expandCall setting calls expand call)
      (expandCall (setting.withOptions maxDepth checkTypes) calls lenientExpand
        call) := by
  have sameLibrary :
      setting.library = (setting.withOptions maxDepth checkTypes).library := rfl
  apply Correspondence.expandCall_of_checks rfl rfl sameLibrary
  · intro template _ parameter _ default _
    exact Term.matches_self fun _ _ => rfl
  · exact inside_untilRejected
  · intro left right matching
    rw [matching.eq_of_eq]
    exact nested right
  · exact Instance.matches_self fun _ _ => rfl
  · intro parameters lefts rights values
    rw [Term.all_eq_of_eq values]
    rcases checkArguments_relaxed relaxed call.template parameters rights with
      same | ⟨fault, failed, ofOptions⟩
    · have sameCheck : checkArguments call.template
          (setting.withOptions maxDepth checkTypes).checkTypes
          parameters rights =
          checkArguments call.template setting.checkTypes parameters rights :=
        same
      rw [sameCheck]
      exact agree_self _
    · rw [failed]
      exact Correspondence.failLeft ofOptions _

omit relaxed in
theorem relaxed_unless_accepted {room lenientRoom : Nat} {calls : List Instance}
    {inst : Instance}
    (entered : inst.template ≠ Vocabulary.ottrTriple →
      setting.refuses calls inst = false →
      (Correspondence.untilRejected setting.stem).Agree Eq
        (expandWithin setting room calls inst) (expandWithin
          (setting.withOptions maxDepth checkTypes) lenientRoom calls inst)) :
    (Correspondence.untilRejected setting.stem).Agree Eq
      (expandWithin setting room calls inst)
      (expandWithin (setting.withOptions maxDepth checkTypes) lenientRoom calls
        inst) := by
  by_cases isTriple : inst.template = Vocabulary.ottrTriple
  · rw [expandWithin_triple room isTriple,
      expandWithin_triple lenientRoom isTriple]
    exact agree_self _
  · cases refused : setting.refuses calls inst with
    | false => exact entered isTriple refused
    | true =>
        have refusedAlike :
            (setting.withOptions maxDepth checkTypes).refuses calls inst =
              true :=
          refused
        rw [expandWithin_refused room isTriple refused,
          expandWithin_refused lenientRoom isTriple refusedAlike]
        exact agree_self _

/-- With more room the same happens, until the room or the types matter. -/
theorem expandWithin_relaxed {room lenientRoom : Nat}
    (roomier : room ≤ lenientRoom) (calls : List Instance) (inst : Instance) :
    (Correspondence.untilRejected setting.stem).Agree Eq
      (expandWithin setting room calls inst)
      (expandWithin (setting.withOptions maxDepth checkTypes) lenientRoom calls
        inst) := by
  -- The smaller room is used up first, and that is a failure of the options.
  induction room generalizing lenientRoom calls inst with
  | zero =>
      apply relaxed_unless_accepted
      intro notTriple accepted
      rw [expandWithin_zero notTriple accepted]
      exact Correspondence.failLeft rfl _
  | succ room induction =>
      apply relaxed_unless_accepted
      intro notTriple accepted
      have acceptedAlike :
          (setting.withOptions maxDepth checkTypes).refuses calls inst =
            false :=
        accepted
      cases lenientRoom with
      | zero => exact absurd roomier (Nat.not_succ_le_zero room)
      | succ lenientRoom =>
          rw [expandWithin_succ room notTriple accepted,
            expandWithin_succ lenientRoom notTriple acceptedAlike]
          apply expandCall_relaxed relaxed
          exact induction (Nat.le_of_succ_le_succ roomier) (inst :: calls)

theorem expandRoot_relaxed (deeper : setting.maxDepth ≤ maxDepth)
    (root : Instance) :
    (Correspondence.untilRejected setting.stem).Agree Eq
      (expandRoot setting root)
      (expandRoot (setting.withOptions maxDepth checkTypes) root) := by
  have sameLibrary :
      (setting.withOptions maxDepth checkTypes).library = setting.library := rfl
  cases resolved : setting.library.resolveRoot root.template with
  | error fault =>
      have resolvedAlike := resolved
      rw [← sameLibrary] at resolvedAlike
      rw [expandRoot_unresolved resolved, expandRoot_unresolved resolvedAlike]
      exact agree_self _
  | ok name =>
      have resolvedAlike := resolved
      rw [← sameLibrary] at resolvedAlike
      cases isOpen : Term.firstVariableIn? root.arguments with
      | some variableName =>
          rw [expandRoot_open resolved isOpen,
            expandRoot_open resolvedAlike isOpen]
          exact agree_self _
      | none =>
          rw [expandRoot_ground resolved isOpen,
            expandRoot_ground resolvedAlike isOpen]
          exact expandWithin_relaxed relaxed deeper []
            { root with template := name }

theorem outcome_relaxed (deeper : setting.maxDepth ≤ maxDepth) (root : Instance)
    (allocated : Nat)
    (allowed : ∀ failure,
      (outcome setting root allocated).result = .error failure →
        failure.fault.isOfOptions = false) :
    outcome (setting.withOptions maxDepth checkTypes) root allocated =
      outcome setting root allocated := by
  have agree := expandRoot_relaxed relaxed deeper root
  apply eq_of_identical
    (Correspondence.outcomes_of_agree agree rfl allocated allocated rfl)
  intro failure failed rejected
  have notRejected := allowed failure failed
  rw [rejected] at notRejected
  cases notRejected

end Instances

end Direct

/-- Options only refuse: what is not refused for its depth or its types comes
out the same under a greater limit and with fewer checks, be it triples or a
failure. -/
theorem Expansion.outcome_lenient (library : Library) (built : library.Built)
    (strict lenient : Options) (random : Nat)
    (sameStem : strict.blankStem = lenient.blankStem)
    (deeper : strict.maxDepth ≤ lenient.maxDepth)
    (relaxed : lenient.checkTypes = true → strict.checkTypes = true)
    (root : Instance)
    (allowed : ∀ failure,
      (outcome library (.ofOptions strict random) root).result =
        .error failure →
        failure.fault.isOfOptions = false) :
    outcome library (.ofOptions lenient random) root =
      outcome library (.ofOptions strict random) root := by
  let setting : Direct.Setting := .ofOptions library strict random
  have strictly : outcome library (.ofOptions strict random) root =
      Direct.outcome setting root 0 :=
    Direct.outcome_eq setting built root 0
  have sameSetting : Direct.Setting.ofOptions library lenient random =
      setting.withOptions lenient.maxDepth lenient.checkTypes := by
    simp only [setting, Direct.Setting.ofOptions, Direct.Setting.withOptions,
      Options.labels, sameStem]
  have leniently : outcome library (.ofOptions lenient random) root =
      Direct.outcome (setting.withOptions lenient.maxDepth lenient.checkTypes)
        root 0 := by
    rw [← sameSetting]
    exact Direct.outcome_eq (.ofOptions library lenient random) built root 0
  rw [strictly] at allowed ⊢
  rw [leniently]
  exact Direct.outcome_relaxed relaxed deeper root 0 allowed

/-- An entry is a line about an IRI. -/
def entryTemplates : List Template :=
  [ { signature :=
        { name := "Line"
          parameters :=
            [ { name := "about" },
              { name := "text", type := some (.literal none) } ] }
      body := [.triple ⟨.var "about", .iri "text", .var "text"⟩] },
    { signature :=
        { name := "Entry"
          parameters := [{ name := "about", type := some .iri }] }
      body := [.nested "Line" [.term (.var "about"), .term (.string "new")]] } ]

def entryLibrary : Library :=
  { templates := entryTemplates }

theorem entryLibrary_built : entryLibrary.Built := by
  have accepted : Library.ofTemplates entryTemplates = .ok entryLibrary := rfl
  exact Library.built_of_ofTemplates accepted

/-- A blank node is refused only where types are checked, and a line within an
entry only where there is no room for it. -/
theorem Expansion.outcome_entry :
    entryLibrary.Built ∧
      (outcome entryLibrary
        (.ofOptions { maxDepth := 2, blankStem := some "b" } 0)
        ⟨"Entry", [.iri "p"]⟩).result =
        .ok [⟨.iri "p", .iri "text", .string "new"⟩] ∧
      outcome entryLibrary
        (.ofOptions { checkTypes := false, blankStem := some "b" } 0)
        ⟨"Entry", [.iri "p"]⟩ =
        outcome entryLibrary
          (.ofOptions { maxDepth := 2, blankStem := some "b" } 0)
          ⟨"Entry", [.iri "p"]⟩ ∧
      (outcome entryLibrary
        (.ofOptions { maxDepth := 2, blankStem := some "b" } 0)
        ⟨"Entry", [.blank "n"]⟩).result =
        .error { fault := .typeMismatch "Entry" "about" "IRI" (.blank "n")
                 calls := [⟨"Entry", [.blank "n"]⟩] } ∧
      (outcome entryLibrary (.ofOptions
        { maxDepth := 1, checkTypes := false, blankStem := some "b" } 0)
        ⟨"Entry", [.blank "n"]⟩).result =
        .error { fault := .depthExceeded 1,
                 calls := [⟨"Entry", [.blank "n"]⟩] } ∧
      (outcome entryLibrary
        (.ofOptions { checkTypes := false, blankStem := some "b" } 0)
        ⟨"Entry", [.blank "n"]⟩).result =
        .ok [⟨.blank "n", .iri "text", .string "new"⟩] := by
  have succeeds : (outcome entryLibrary
      (.ofOptions { maxDepth := 2, blankStem := some "b" } 0)
      ⟨"Entry", [.iri "p"]⟩).result =
      .ok [⟨.iri "p", .iri "text", .string "new"⟩] := by
    decide +kernel
  refine ⟨entryLibrary_built, succeeds, ?_, by decide +kernel,
    by decide +kernel, by decide +kernel⟩
  apply outcome_lenient entryLibrary entryLibrary_built
    { maxDepth := 2, blankStem := some "b" }
    { checkTypes := false, blankStem := some "b" } 0 rfl (by decide) (by decide)
  intro failure failed
  rw [succeeds] at failed
  cases failed

end RdfTemplates
