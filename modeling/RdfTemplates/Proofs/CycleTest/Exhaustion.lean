import RdfTemplates.Proofs.Labels.Lockstep

/-!
# Circular expansion without the cycle test

A run that never looks at labels goes through the same steps again when it meets
an active call again, however many labels have been used since.  So without the
cycle test nothing but the depth limit can end it.
-/

namespace RdfTemplates.Direct

/-- The relation of all labels; terms that match under it have the same
shape. -/
abbrev AnyLabels (_ _ : String) : Prop :=
  True

/-- A setting without the cycle test that differs from another one in its stem
and limit at most. -/
structure Setting.Untested (free guarded : Setting) : Prop where
  library : guarded.library = free.library
  checkTypes : guarded.checkTypes = free.checkTypes
  unguarded : free.refusesRepeats = false

/-- The run is stopped by the depth limit, whatever has been done before. -/
def Run.StopsAt (limit : Nat) (run : Run Unit) : Prop :=
  ∀ trail, ∃ calls last, run trail = .error ⟨.depthExceeded limit, calls⟩ last

/-- With so much room left, all instances of the shape of this one are stopped
by the depth limit. -/
def Setting.Exhausts (setting : Setting) (room : Nat) (inst : Instance) :
    Prop :=
  ∀ other : Instance, inst.Matches AnyLabels other → ∀ less ≤ room, ∀ calls,
    (expandWithin setting less calls other).StopsAt setting.maxDepth

theorem Setting.Exhausts.mono {setting : Setting} {room less : Nat}
    {inst : Instance} (exhausts : setting.Exhausts room inst)
    (bound : less ≤ room) : setting.Exhausts less inst := by
  intro other shape least leastBound calls
  exact exhausts other shape least (Nat.le_trans leastBound bound) calls

/-- Runs on instances of one shape, of which the second stops at the limit
unless it succeeds together with the first. -/
def Correspondence.shape (guarded free : Setting)
    (leftExcused : Failure → Prop) : Correspondence where
  leftStem := guarded.stem
  rightStem := free.stem
  labels := AnyLabels
  counts _ _ := True
  fresh _ := trivial
  next _ := trivial
  outputs _ _ := True
  emitted _ _ := trivial
  leftExcused := leftExcused
  rightExcused failure := failure.fault = .depthExceeded free.maxDepth
  failures _ _ := False

namespace Setting.Untested

variable {guarded free : Setting} (untested : free.Untested guarded)
  {leftExcused : Failure → Prop} {leftCalls rightCalls : List Instance}
  {left right : Instance}

theorem inside_any (leftCalls rightCalls : List Instance) :
    (Correspondence.shape guarded free fun _ => True).Inside leftCalls
      rightCalls := by
  intro leftFault rightFault matching
  exact Or.inl trivial

include untested

theorem accepts (calls : List Instance) (inst : Instance) :
    free.refuses calls inst = false := by
  rw [Setting.refuses, untested.unguarded, Bool.false_and]

theorem settings :
    (Correspondence.shape guarded free leftExcused).Settings guarded free where
  leftStem := rfl
  rightStem := rfl
  library := untested.library
  checkTypes := untested.checkTypes
  defaults := by
    intro template member parameter parameterMember default hasDefault
    apply Term.matches_self
    intro label labelMember
    trivial

theorem expandWithin_accepted (leftRoom rightRoom : Nat)
    (inside : ∀ leftCalls rightCalls,
      (Correspondence.shape guarded free leftExcused).Inside leftCalls
        rightCalls)
    (shape : left.Matches AnyLabels right)
    (notTriple : left.template ≠ Vocabulary.ottrTriple)
    (accepted : guarded.refuses leftCalls left = false)
    (nested : ∀ less, rightRoom = less + 1 →
      ∀ leftInner rightInner : Instance,
        leftInner.Matches AnyLabels rightInner →
          (Correspondence.shape guarded free leftExcused).Agree Eq
            (expandWithin guarded leftRoom (left :: leftCalls) leftInner)
            (expandWithin free less (right :: rightCalls) rightInner)) :
    (Correspondence.shape guarded free leftExcused).Agree Eq
      (expandWithin guarded (leftRoom + 1) leftCalls left)
      (expandWithin free rightRoom rightCalls right) := by
  have rightNotTriple : right.template ≠ Vocabulary.ottrTriple :=
    shape.template ▸ notTriple
  cases rightRoom with
  | zero =>
      rw [expandWithin_zero rightNotTriple (untested.accepts rightCalls right)]
      exact Correspondence.failRight rfl _
  | succ rightRoom =>
      rw [expandWithin_succ leftRoom notTriple accepted, expandWithin_succ
        rightRoom rightNotTriple (untested.accepts rightCalls right)]
      exact Correspondence.expandCall untested.settings (inside _ _)
        (nested rightRoom rfl) shape

theorem agree_unless_accepted (leftRoom rightRoom : Nat)
    (shape : left.Matches AnyLabels right)
    (entered : left.template ≠ Vocabulary.ottrTriple →
      guarded.refuses leftCalls left = false →
      (Correspondence.shape guarded free fun _ => True).Agree Eq
        (expandWithin guarded leftRoom leftCalls left)
        (expandWithin free rightRoom rightCalls right)) :
    (Correspondence.shape guarded free fun _ => True).Agree Eq
      (expandWithin guarded leftRoom leftCalls left)
      (expandWithin free rightRoom rightCalls right) := by
  by_cases isTriple : left.template = Vocabulary.ottrTriple
  · exact Correspondence.expandWithin_triple untested.settings
      (inside_any leftCalls rightCalls) leftRoom rightRoom shape isTriple
  · cases refused : guarded.refuses leftCalls left with
    | true =>
        rw [expandWithin_refused leftRoom isTriple refused]
        exact Correspondence.failLeft trivial _
    | false => exact entered isTriple refused

/-- What succeeds under the cycle test succeeds without it on all instances of
the same shape, or is stopped at the depth limit. -/
theorem expandWithin_ok (leftRoom rightRoom : Nat)
    (shape : left.Matches AnyLabels right) :
    (Correspondence.shape guarded free fun _ => True).Agree Eq
      (expandWithin guarded leftRoom leftCalls left)
      (expandWithin free rightRoom rightCalls right) := by
  induction leftRoom generalizing rightRoom leftCalls rightCalls left right with
  | zero =>
      apply untested.agree_unless_accepted 0 rightRoom shape
      intro notTriple accepted
      rw [expandWithin_zero notTriple accepted]
      exact Correspondence.failLeft trivial _
  | succ leftRoom induction =>
      apply untested.agree_unless_accepted (leftRoom + 1) rightRoom shape
      intro notTriple accepted
      apply untested.expandWithin_accepted leftRoom rightRoom inside_any shape
        notTriple accepted
      intro less _ leftInner rightInner innerShape
      exact induction less innerShape

end Setting.Untested

/-! ## Runs that meet an active call again -/

/-- The correspondence in which only the refusal of a repeated call has to be
answered. -/
abbrev Correspondence.untilRepeated (guarded free : Setting)
    (repeated : Instance) : Correspondence :=
  .shape guarded free fun failure => failure.fault ≠ .cyclicExpansion repeated

section Repeated

variable {guarded free : Setting} (untested : free.Untested guarded)
  {repeated : Instance}

theorem inside_untilRepeated (repeated : Instance)
    (leftCalls rightCalls : List Instance) :
    (Correspondence.untilRepeated guarded free repeated).Inside leftCalls
      rightCalls := by
  rintro left right ⟨_, inCall⟩
  apply Or.inl
  rintro rfl
  cases inCall

theorem stopsAt_of_agree {left right : Run Unit} {trail last : Trail}
    {calls : List Instance}
    (agree :
      (Correspondence.untilRepeated guarded free repeated).Agree Eq left right)
    (ended : left trail = .error ⟨.cyclicExpansion repeated, calls⟩ last) :
    right.StopsAt free.maxDepth := by
  intro rightTrail
  have results := agree trail rightTrail ⟨trivial, trivial⟩
  cases rightEnd : right rightTrail with
  | ok value rightLast =>
      rw [ended, rightEnd] at results
      exact absurd rfl results
  | error failure rightLast =>
      rw [ended, rightEnd] at results
      obtain ⟨fault, rightCalls⟩ := failure
      rcases results with other | stopped | impossible
      · exact absurd rfl other
      · cases (stopped : fault = .depthExceeded free.maxDepth)
        exact ⟨rightCalls, rightLast, rfl⟩
      · exact False.elim impossible.1

include untested

theorem exhausts_unless_accepted {inst : Instance} {room depth : Nat}
    {calls failed : List Instance} {trail last : Trail}
    (ended : expandWithin guarded room calls inst trail =
      .error ⟨.cyclicExpansion repeated, failed⟩ last)
    (active : repeated ∈ calls → free.Exhausts depth repeated)
    (entered : inst.template ≠ Vocabulary.ottrTriple →
      guarded.refuses calls inst = false → free.Exhausts depth inst) :
    free.Exhausts depth inst := by
  by_cases isTriple : inst.template = Vocabulary.ottrTriple
  · -- A triple only fails in ways that the correspondence excuses.
    intro other shape less bound otherCalls
    have agree := Correspondence.expandWithin_triple untested.settings
      (inside_untilRepeated repeated calls otherCalls) room less shape isTriple
    exact stopsAt_of_agree agree ended
  · cases refused : guarded.refuses calls inst with
    | true =>
        rw [expandWithin_refused room isTriple refused] at ended
        cases ended
        apply active
        simp only [Setting.refuses, Bool.and_eq_true] at refused
        exact List.mem_of_elem_eq_true refused.2
    | false => exact entered isTriple refused

theorem exhausts_zero {inst : Instance}
    (notTriple : inst.template ≠ Vocabulary.ottrTriple) :
    free.Exhausts 0 inst := by
  intro other shape less bound calls trail
  cases Nat.le_zero.mp bound
  have otherNotTriple : other.template ≠ Vocabulary.ottrTriple :=
    shape.template ▸ notTriple
  rw [expandWithin_zero otherNotTriple (untested.accepts calls other)]
  exact ⟨calls, trail, rfl⟩

theorem nested_agree {room less depth : Nat} {calls otherCalls : List Instance}
    (bound : less ≤ depth)
    (leads : ∀ inner failed trail last,
      expandWithin guarded room calls inner trail =
        .error ⟨.cyclicExpansion repeated, failed⟩ last →
        free.Exhausts depth inner)
    {inner other : Instance} (shape : inner.Matches AnyLabels other) :
    (Correspondence.untilRepeated guarded free repeated).Agree Eq
      (expandWithin guarded room calls inner)
      (expandWithin free less otherCalls other) := by
  intro leftTrail rightTrail states
  cases leftEnd : expandWithin guarded room calls inner leftTrail with
  | ok value leftLast =>
      have agree : (Correspondence.shape guarded free fun _ => True).Agree Eq
          (expandWithin guarded room calls inner)
          (expandWithin free less otherCalls other) :=
        untested.expandWithin_ok room less shape
      have results := agree leftTrail rightTrail states
      rw [leftEnd] at results
      cases rightEnd : expandWithin free less otherCalls other rightTrail with
      | ok rightValue rightLast =>
          rw [rightEnd] at results
          exact results
      | error failure rightLast =>
          rw [rightEnd] at results
          exact results
  | error failure leftLast =>
      by_cases isRepeated : failure.fault = .cyclicExpansion repeated
      · obtain ⟨fault, failed⟩ := failure
        cases isRepeated
        have exhausts := leads inner failed leftTrail leftLast leftEnd
        obtain ⟨rightFailed, rightLast, rightEnd⟩ :=
          exhausts other shape less bound otherCalls rightTrail
        rw [rightEnd]
        exact Or.inr (Or.inl rfl)
      · -- Any other failure of the first run asks nothing of the second.
        cases expandWithin free less otherCalls other rightTrail with
        | ok value rightLast => exact isRepeated
        | error rightFailure rightLast => exact Or.inl isRepeated

/-- A call inside which the repeated call is met is stopped at every depth.  If
it is the repeated call itself, the way to its second occurrence is replayed as
often as the depth allows: that is the induction. -/
theorem exhausts_entered {room : Nat} {inst : Instance}
    {calls failed : List Instance} {trail last : Trail}
    (notTriple : inst.template ≠ Vocabulary.ottrTriple)
    (accepted : guarded.refuses calls inst = false)
    (ended : expandWithin guarded (room + 1) calls inst trail =
      .error ⟨.cyclicExpansion repeated, failed⟩ last)
    (leads : ∀ depth,
      (repeated ∈ inst :: calls → free.Exhausts depth repeated) →
        ∀ inner failed trail last,
          expandWithin guarded room (inst :: calls) inner trail =
            .error ⟨.cyclicExpansion repeated, failed⟩ last →
            free.Exhausts depth inner)
    (depth : Nat) (active : repeated ∈ calls → free.Exhausts depth repeated) :
    free.Exhausts depth inst := by
  induction depth with
  | zero => exact exhausts_zero untested notTriple
  | succ depth induction =>
      have again : free.Exhausts depth inst := by
        apply induction
        intro outer
        exact (active outer).mono (Nat.le_succ depth)
      have activeInside :
          repeated ∈ inst :: calls → free.Exhausts depth repeated := by
        intro member
        rcases List.mem_cons.mp member with rfl | outer
        · exact again
        · exact (active outer).mono (Nat.le_succ depth)
      intro other shape less bound otherCalls
      have agree : (Correspondence.untilRepeated guarded free repeated).Agree Eq
          (expandWithin guarded (room + 1) calls inst)
          (expandWithin free less otherCalls other) := by
        apply untested.expandWithin_accepted room less
          (inside_untilRepeated repeated) shape notTriple accepted
        rintro inside rfl leftInner rightInner innerShape
        have innerBound : inside ≤ depth := Nat.le_of_succ_le_succ bound
        exact nested_agree untested innerBound (leads depth activeInside)
          innerShape
      exact stopsAt_of_agree agree ended

theorem exhausts_of_repeated (room : Nat) {inst : Instance}
    {calls failed : List Instance} {trail last : Trail}
    (ended : expandWithin guarded room calls inst trail =
      .error ⟨.cyclicExpansion repeated, failed⟩ last)
    (depth : Nat) (active : repeated ∈ calls → free.Exhausts depth repeated) :
    free.Exhausts depth inst := by
  induction room generalizing calls failed inst trail last depth with
  | zero =>
      apply exhausts_unless_accepted untested ended active
      intro notTriple accepted
      rw [expandWithin_zero notTriple accepted] at ended
      cases ended
  | succ room induction =>
      apply exhausts_unless_accepted untested ended active
      intro notTriple accepted
      apply exhausts_entered untested notTriple accepted ended _ depth active
      intro innerDepth activeInside inner innerFailed innerTrail
        innerLast innerEnd
      exact induction innerEnd innerDepth activeInside

/-- A root whose expansion meets an active call again is stopped at every
limit. -/
theorem expandRoot_stopsAt {root : Instance} {calls : List Instance}
    {trail last : Trail}
    (ended : expandRoot guarded root trail =
      .error ⟨.cyclicExpansion repeated, calls⟩ last) :
    (expandRoot free root).StopsAt free.maxDepth := by
  cases resolved : guarded.library.resolveRoot root.template with
  | error fault =>
      obtain ⟨name, rfl⟩ := Library.resolveRoot_eq_error resolved
      rw [expandRoot_unresolved resolved] at ended
      cases ended
  | ok name =>
      cases isOpen : Term.firstVariableIn? root.arguments with
      | some variableName =>
          rw [expandRoot_open resolved isOpen] at ended
          cases ended
      | none =>
          rw [expandRoot_ground resolved isOpen] at ended
          rw [untested.library] at resolved
          rw [expandRoot_ground resolved isOpen]
          have exhausts := exhausts_of_repeated untested guarded.maxDepth ended
            free.maxDepth fun member => absurd member List.not_mem_nil
          apply exhausts _ _ free.maxDepth (Nat.le_refl _) []
          exact Instance.matches_self fun _ _ => trivial

end Repeated

end RdfTemplates.Direct
