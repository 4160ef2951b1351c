import Mathlib.Data.List.Chain
import RdfTemplates.Proofs.Calls.Failures
import RdfTemplates.Proofs.CycleTest.Outcomes
import RdfTemplates.Proofs.Direct.Refinement

/-!
# Paths of calls

The calls that are active at one time lead from the root from body to body.
They are the calls that a failure lists, the innermost first, and its fault fits
the place that they lead to.
-/

namespace RdfTemplates

/-- Distinct calls, not more than allowed, each of a template that the call
around it names. -/
structure Library.IsPath (library : Library) (maxDepth : Nat)
    (calls : List Instance) : Prop where
  bounded : calls.length ≤ maxDepth
  distinct : calls.Nodup
  called : calls.IsChain fun inner outer => library.Calls outer.template
    inner.template

/-- The calls of a failure are a path, and its fault fits the end of the
path. -/
structure Failure.IsGenuine (failure : Failure) (library : Library)
    (maxDepth : Nat) : Prop extends library.IsPath maxDepth failure.calls where
  /-- A call with another one inside it is of a template that is defined. -/
  defined : ∀ call ∈ failure.calls.tail, library.contains call.template = true
  /-- The innermost call is of an unknown template if this is the fault, and
  only then. -/
  unknown : ∀ call, failure.calls.head? = some call → ∀ name,
    failure.fault = .unknownTemplate name ↔
      library.contains call.template = false ∧ name = call.template
  /-- An instance that is refused as active is among the calls, and the
  innermost one names its template. -/
  repeated : ∀ inst, failure.fault = .cyclicExpansion inst →
    inst ∈ failure.calls ∧
      ∃ call, failure.calls.head? = some call ∧
        library.Calls call.template inst.template
  /-- If there are too many calls, they are as many as allowed. -/
  full : ∀ limit, failure.fault = .depthExceeded limit →
    limit = maxDepth ∧ failure.calls.length = maxDepth

namespace Direct

variable {setting : Setting} {calls : List Instance} {inst : Instance}

/-- The active calls when an instance is reached. -/
structure Setting.Reaches (setting : Setting) (calls : List Instance)
    (inst : Instance) :
    Prop extends setting.library.IsPath setting.maxDepth calls where
  defined : ∀ call ∈ calls, setting.library.contains call.template = true
  named : ∀ caller ∈ calls.head?,
    setting.library.Calls caller.template inst.template

namespace Setting.Reaches

theorem enter (reaches : setting.Reaches calls inst)
    (testing : setting.refusesRepeats = true)
    (entered : setting.Enters calls inst) :
    setting.library.IsPath setting.maxDepth (inst :: calls) := by
  obtain ⟨accepted, room⟩ := entered
  have fresh : inst ∉ calls := by
    simpa [Setting.refuses, testing, List.contains_iff_mem] using accepted
  constructor
  · simp only [List.length_cons]
    omega
  · exact List.nodup_cons.mpr ⟨fresh, reaches.distinct⟩
  · exact reaches.called.cons reaches.named

theorem inside (reaches : setting.Reaches calls inst)
    (testing : setting.refusesRepeats = true)
    (entered : setting.Enters calls inst) {callee : Instance}
    (called : setting.library.Calls inst.template callee.template) :
    setting.Reaches (inst :: calls) callee := by
  refine ⟨reaches.enter testing entered, ?_, ?_⟩
  · obtain ⟨template, found, _⟩ := called
    exact List.forall_mem_cons.mpr
      ⟨Library.contains_of_find? found, reaches.defined⟩
  · intro caller isHead
    cases isHead
    exact called

end Setting.Reaches

theorem isGenuine_of_defined {library : Library} {maxDepth : Nat}
    {fault : Fault} (path : library.IsPath maxDepth calls)
    (defined : ∀ call ∈ calls, library.contains call.template = true)
    (known : ∀ name, fault ≠ .unknownTemplate name)
    (repeated : ∀ inst, fault = .cyclicExpansion inst →
      inst ∈ calls ∧ ∃ call, calls.head? = some call ∧
        library.Calls call.template inst.template)
    (full : ∀ limit, fault = .depthExceeded limit →
      limit = maxDepth ∧ calls.length = maxDepth) :
    Failure.IsGenuine ⟨fault, calls⟩ library maxDepth := by
  refine ⟨path, ?_, ?_, repeated, full⟩
  · intro call member
    exact defined call (List.mem_of_mem_tail member)
  · intro call isHead name
    constructor
    · intro unknown
      exact absurd unknown (known name)
    · intro ⟨absent, _⟩
      rw [defined call (List.mem_of_head? isHead)] at absent
      cases absent

/-- What is wrong in a call can be wrong at the end of any path. -/
theorem isGenuine_of_isRefusal {library : Library} {maxDepth : Nat}
    {fault : Fault} (path : library.IsPath maxDepth calls)
    (defined : ∀ call ∈ calls, library.contains call.template = true)
    (own : fault.isRefusal = false) :
    Failure.IsGenuine ⟨fault, calls⟩ library maxDepth := by
  apply isGenuine_of_defined path defined
  · intro name isUnknown
    rw [isUnknown] at own
    cases own
  · intro inst isRepeated
    rw [isRepeated] at own
    cases own
  · intro limit isFull
    rw [isFull] at own
    cases own

theorem isGenuine_of_repeated (reaches : setting.Reaches calls inst)
    (active : inst ∈ calls) :
    Failure.IsGenuine ⟨.cyclicExpansion inst, calls⟩ setting.library
      setting.maxDepth := by
  apply isGenuine_of_defined reaches.toIsPath reaches.defined
  · intro name impossible
    cases impossible
  · intro repeated same
    cases same
    have isHead := List.head?_eq_some_head (List.ne_nil_of_mem active)
    exact ⟨active, _, isHead, reaches.named _ isHead⟩
  · intro limit impossible
    cases impossible

theorem isGenuine_of_full (reaches : setting.Reaches calls inst)
    (full : calls.length = setting.maxDepth) :
    Failure.IsGenuine ⟨.depthExceeded setting.maxDepth, calls⟩ setting.library
      setting.maxDepth := by
  apply isGenuine_of_defined reaches.toIsPath reaches.defined
  · intro name impossible
    cases impossible
  · intro repeated impossible
    cases impossible
  · intro limit same
    cases same
    exact ⟨rfl, full⟩

theorem isGenuine_of_unknown (reaches : setting.Reaches calls inst)
    (testing : setting.refusesRepeats = true)
    (entered : setting.Enters calls inst)
    (absent : setting.library.find? inst.template = none) :
    Failure.IsGenuine ⟨.unknownTemplate inst.template, inst :: calls⟩
      setting.library setting.maxDepth := by
  refine ⟨reaches.enter testing entered, reaches.defined, ?_, ?_, ?_⟩
  · intro call isHead name
    cases isHead
    simp [Library.contains_eq_isSome_find?, absent, eq_comm]
  · intro repeated impossible
    cases impossible
  · intro limit impossible
    cases impossible

/-- An instance that is reached on a path fails on a path. -/
theorem isGenuine_of_fails {failure : Failure}
    (fails : Fails setting calls inst failure)
    (testing : setting.refusesRepeats = true)
    (reaches : setting.Reaches calls inst) :
    failure.IsGenuine setting.library setting.maxDepth := by
  -- On the derivation: a failure inside a call is one of an instance that its
  -- body names.
  induction fails with
  | triple _ own =>
      exact isGenuine_of_isRefusal reaches.toIsPath reaches.defined own
  | repeated active => exact isGenuine_of_repeated reaches active
  | full full => exact isGenuine_of_full reaches full
  | unknown entered absent =>
      exact isGenuine_of_unknown reaches testing entered absent
  | inside entered found own =>
      refine isGenuine_of_isRefusal (reaches.enter testing entered) ?_ own
      exact List.forall_mem_cons.mpr
        ⟨Library.contains_of_find? found, reaches.defined⟩
  | nested entered called _ induction =>
      exact induction (reaches.inside testing entered called)

theorem calls_of_fails {failure : Failure}
    (fails : Fails setting calls inst failure) :
    failure.calls = calls ∨ inst :: calls <:+ failure.calls := by
  induction fails with
  | triple | repeated | full => exact Or.inl rfl
  | unknown | inside => exact Or.inr List.suffix_rfl
  | nested _ _ _ induction =>
      rcases induction with same | further
      · rw [same]
        exact Or.inr List.suffix_rfl
      · exact Or.inr ((List.suffix_cons _ _).trans further)

theorem isGenuine_unresolved (library : Library) (maxDepth : Nat)
    (name : String) :
    Failure.IsGenuine ⟨.unknownTemplate name, []⟩ library maxDepth := by
  refine ⟨⟨Nat.zero_le _, .nil, .nil⟩, List.forall_mem_nil _, ?_, ?_, ?_⟩
  · intro call isHead
    cases isHead
  · intro inst impossible
    cases impossible
  · intro limit impossible
    cases impossible

theorem isGenuine_of_expandRoot {setting : Setting} {root : Instance}
    {trail last : Trail} {failure : Failure}
    (testing : setting.refusesRepeats = true)
    (ended : expandRoot setting root trail = .error failure last) :
    failure.IsGenuine setting.library setting.maxDepth ∧
      (failure.calls ≠ [] →
        ∃ name, setting.library.resolveRoot root.template = .ok name ∧
          failure.calls.getLast? = some { root with template := name }) := by
  have noPath : setting.library.IsPath setting.maxDepth [] :=
    ⟨Nat.zero_le _, .nil, .nil⟩
  cases resolved : setting.library.resolveRoot root.template with
  | error fault =>
      obtain ⟨name, rfl⟩ := Library.resolveRoot_eq_error resolved
      rw [expandRoot_unresolved resolved] at ended
      cases ended
      refine ⟨isGenuine_unresolved _ _ name, ?_⟩
      intro called
      exact absurd rfl called
  | ok name =>
      cases isOpen : Term.firstVariableIn? root.arguments with
      | some variableName =>
          rw [expandRoot_open resolved isOpen] at ended
          cases ended
          refine ⟨isGenuine_of_isRefusal noPath (List.forall_mem_nil _) rfl, ?_⟩
          intro called
          exact absurd rfl called
      | none =>
          rw [expandRoot_ground resolved isOpen] at ended
          have fails := failsAs_expandWithin setting setting.maxDepth []
            { root with template := name } rfl trail failure last ended
          have reaches : setting.Reaches [] { root with template := name } :=
            ⟨noPath, List.forall_mem_nil _,
              fun _ impossible => by cases impossible⟩
          refine ⟨isGenuine_of_fails fails testing reaches, ?_⟩
          intro called
          refine ⟨name, rfl, ?_⟩
          rcases calls_of_fails fails with none | ⟨inner, same⟩
          · exact absurd none called
          · rw [← same]
            exact List.getLast?_concat

end Direct

/-- The calls of a failure are a path from the root to the place of its
fault. -/
theorem Expansion.failure_isGenuine (library : Library) (built : library.Built)
    (context : Context) (idle : context.calls = [])
    (testing : context.refusesRepeats = true) (root : Instance)
    (failure : Failure)
    (failed : (outcome library context root).result = .error failure) :
    failure.IsGenuine library context.maxDepth ∧
      (failure.calls ≠ [] →
        ∃ name, library.resolveRoot root.template = .ok name ∧
          failure.calls.getLast? = some { root with template := name }) := by
  obtain ⟨last, ended⟩ := Direct.expandRoot_of_outcome built idle failed
  exact Direct.isGenuine_of_expandRoot testing ended

/-- The call that would go round is refused. -/
def turnFailure : Failure :=
  { fault := .cyclicExpansion ⟨"Even", [.iri "p"]⟩
    calls := [⟨"Odd", [.iri "p"]⟩, ⟨"Even", [.iri "p"]⟩] }

theorem Expansion.failure_turn :
    turnLibrary.Built ∧
      (outcome turnLibrary (.ofOptions { blankStem := some "b" } 0)
        ⟨"Even", [.iri "p"]⟩).result =
        .error turnFailure ∧
      turnFailure.IsGenuine turnLibrary defaultMaxDepth ∧
      turnFailure.calls.getLast? = some ⟨"Even", [.iri "p"]⟩ := by
  have failed : (outcome turnLibrary (.ofOptions { blankStem := some "b" } 0)
      ⟨"Even", [.iri "p"]⟩).result = .error turnFailure := by
    decide +kernel
  obtain ⟨genuine, _⟩ := failure_isGenuine turnLibrary turnLibrary_built
    (.ofOptions { blankStem := some "b" } 0) rfl rfl
    ⟨"Even", [.iri "p"]⟩ turnFailure failed
  exact ⟨turnLibrary_built, failed, genuine, rfl⟩

end RdfTemplates
