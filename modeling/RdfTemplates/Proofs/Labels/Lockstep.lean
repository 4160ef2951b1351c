import RdfTemplates.Proofs.Labels.Runs

/-!
# Instances in lockstep

Two runs of whole instances stay in step as long as calls are refused on both
sides together.  Then the outcomes of two roots answer each other.
-/

namespace RdfTemplates.Direct.Correspondence

variable {corr : Correspondence} {leftCalls rightCalls : List Instance}

theorem expandWithin_triple {leftSetting rightSetting : Setting}
    (settings : corr.Settings leftSetting rightSetting)
    (inside : corr.Inside leftCalls rightCalls) (leftRoom rightRoom : Nat)
    {left right : Instance} (matching : left.Matches corr.labels right)
    (isTriple : left.template = Vocabulary.ottrTriple) :
    corr.Agree Eq (Direct.expandWithin leftSetting leftRoom leftCalls left)
      (Direct.expandWithin rightSetting rightRoom rightCalls right) := by
  have rightIsTriple : right.template = Vocabulary.ottrTriple :=
    matching.template.symm.trans isTriple
  rw [Direct.expandWithin_triple leftRoom isTriple,
    Direct.expandWithin_triple rightRoom rightIsTriple, settings.leftStem,
    settings.rightStem]
  exact writeTripleInstance inside matching.arguments

/-- Two settings in which matching instances inside matching calls are refused
together for their depth, and for being active together or on the left with an
excuse. -/
structure Lockstep (corr : Correspondence) (left right : Setting) : Prop
    extends corr.Settings left right where
  maxDepth : left.maxDepth = right.maxDepth
  answered {leftCalls rightCalls : List Instance} :
    List.Forall₂ (Instance.Matches corr.labels) leftCalls rightCalls →
    ∀ leftFault rightFault : Fault, leftFault.Matches corr.labels rightFault →
      corr.Answered ⟨leftFault, leftCalls⟩ ⟨rightFault, rightCalls⟩
  refuses {leftCalls rightCalls : List Instance} :
    List.Forall₂ (Instance.Matches corr.labels) leftCalls rightCalls →
    ∀ leftInst rightInst : Instance, leftInst.Matches corr.labels rightInst →
      left.refuses leftCalls leftInst = right.refuses rightCalls rightInst ∨
        left.refuses leftCalls leftInst = true ∧
          corr.leftExcused ⟨.cyclicExpansion leftInst, leftCalls⟩

namespace Lockstep

variable {leftSetting rightSetting : Setting}
  (lockstep : corr.Lockstep leftSetting rightSetting)

include lockstep

theorem inside
    (calls : List.Forall₂ (Instance.Matches corr.labels) leftCalls rightCalls) :
    corr.Inside leftCalls rightCalls :=
  fun left right matching => lockstep.answered calls left right matching.1

variable {left right : Instance}

/-- Triples are written alike and calls refused alike, so only calls that are
entered count. -/
theorem agree_unless_accepted (room : Nat)
    (calls : List.Forall₂ (Instance.Matches corr.labels) leftCalls rightCalls)
    (matching : left.Matches corr.labels right)
    (entered : left.template ≠ Vocabulary.ottrTriple →
      leftSetting.refuses leftCalls left = false →
      corr.Agree Eq (Direct.expandWithin leftSetting room leftCalls left)
        (Direct.expandWithin rightSetting room rightCalls right)) :
    corr.Agree Eq (Direct.expandWithin leftSetting room leftCalls left)
      (Direct.expandWithin rightSetting room rightCalls right) := by
  by_cases isTriple : left.template = Vocabulary.ottrTriple
  · exact expandWithin_triple lockstep.toSettings (lockstep.inside calls) room
      room matching isTriple
  · cases refused : leftSetting.refuses leftCalls left with
    | false => exact entered isTriple refused
    | true =>
        rw [Direct.expandWithin_refused room isTriple refused]
        rcases lockstep.refuses calls left right matching with same |
          ⟨_, excused⟩
        · have rightNotTriple : right.template ≠ Vocabulary.ottrTriple :=
            matching.template ▸ isTriple
          rw [Direct.expandWithin_refused room rightNotTriple
            (same.symm.trans refused)]
          exact failBoth
            (lockstep.answered calls _ _ (.cyclicExpansion matching))
        · exact failLeft excused _

theorem accepts
    (calls : List.Forall₂ (Instance.Matches corr.labels) leftCalls rightCalls)
    (matching : left.Matches corr.labels right)
    (accepted : leftSetting.refuses leftCalls left = false) :
    rightSetting.refuses rightCalls right = false := by
  rcases lockstep.refuses calls left right matching with same | ⟨refused, _⟩
  · exact same.symm.trans accepted
  · rw [refused] at accepted
    cases accepted

theorem expandWithin (room : Nat)
    (calls : List.Forall₂ (Instance.Matches corr.labels) leftCalls rightCalls)
    (matching : left.Matches corr.labels right) :
    corr.Agree Eq (Direct.expandWithin leftSetting room leftCalls left)
      (Direct.expandWithin rightSetting room rightCalls right) := by
  induction room generalizing leftCalls rightCalls left right with
  | zero =>
      apply lockstep.agree_unless_accepted 0 calls matching
      intro notTriple accepted
      have rightAccepted := lockstep.accepts calls matching accepted
      have rightNotTriple : right.template ≠ Vocabulary.ottrTriple :=
        matching.template ▸ notTriple
      rw [Direct.expandWithin_zero notTriple accepted,
        Direct.expandWithin_zero rightNotTriple rightAccepted,
        lockstep.maxDepth]
      exact failBoth (lockstep.answered calls _ _ (.plain rfl))
  | succ room induction =>
      apply lockstep.agree_unless_accepted (room + 1) calls matching
      intro notTriple accepted
      have rightAccepted := lockstep.accepts calls matching accepted
      have rightNotTriple : right.template ≠ Vocabulary.ottrTriple :=
        matching.template ▸ notTriple
      rw [Direct.expandWithin_succ room notTriple accepted,
        Direct.expandWithin_succ room rightNotTriple rightAccepted]
      have innerCalls := List.Forall₂.cons matching calls
      apply expandCall lockstep.toSettings (lockstep.inside innerCalls)
        _ matching
      intro leftInner rightInner innerMatching
      exact induction innerCalls innerMatching

/-- Roots with matching arguments are expanded alike. -/
theorem expandRoot (matching : left.Matches corr.labels right) :
    corr.Agree Eq (Direct.expandRoot leftSetting left)
      (Direct.expandRoot rightSetting right) := by
  have sameVariable := Term.firstVariableIn?_eq matching.arguments
  cases resolved : rightSetting.library.resolveRoot right.template with
  | error fault =>
      have leftResolved := resolved
      rw [← lockstep.library, ← matching.template] at leftResolved
      obtain ⟨name, rfl⟩ := Library.resolveRoot_eq_error resolved
      rw [expandRoot_unresolved leftResolved, expandRoot_unresolved resolved]
      exact failBoth (lockstep.answered .nil _ _ (.plain rfl))
  | ok name =>
      have leftResolved := resolved
      rw [← lockstep.library, ← matching.template] at leftResolved
      cases isOpen : Term.firstVariableIn? right.arguments with
      | some variableName =>
          rw [expandRoot_open leftResolved (sameVariable.trans isOpen),
            expandRoot_open resolved isOpen]
          exact failBoth (lockstep.answered .nil _ _ (.plain rfl))
      | none =>
          rw [expandRoot_ground leftResolved (sameVariable.trans isOpen),
            expandRoot_ground resolved isOpen, lockstep.maxDepth]
          exact lockstep.expandWithin _ .nil ⟨rfl, matching.arguments⟩

end Lockstep

/-- How the outcomes of two runs answer each other. -/
inductive Outcomes (corr : Correspondence) : Outcome → Outcome → Prop where
  | succeed {lefts rights : List Triple} {leftAllocated rightAllocated : Nat} :
      corr.outputs lefts rights → corr.counts leftAllocated rightAllocated →
      Outcomes corr ⟨.ok lefts, leftAllocated⟩ ⟨.ok rights, rightAllocated⟩
  | fail {left right : Failure} {leftAllocated rightAllocated : Nat} :
      corr.failures left right → corr.counts leftAllocated rightAllocated →
      Outcomes corr ⟨.error left, leftAllocated⟩ ⟨.error right, rightAllocated⟩
  | leftExcused {left : Failure} {leftAllocated : Nat} {right : Outcome} :
      corr.leftExcused left → Outcomes corr ⟨.error left, leftAllocated⟩ right
  | rightExcused {left : Outcome} {right : Failure} {rightAllocated : Nat} :
      corr.rightExcused right →
        Outcomes corr left ⟨.error right, rightAllocated⟩

theorem outcomes_of_agree {leftSetting rightSetting : Setting}
    {left right : Instance}
    (agree : corr.Agree Eq (Direct.expandRoot leftSetting left)
      (Direct.expandRoot rightSetting right))
    (empty : corr.outputs [] []) (leftAllocated rightAllocated : Nat)
    (counts : corr.counts leftAllocated rightAllocated) :
    corr.Outcomes (outcome leftSetting left leftAllocated)
      (outcome rightSetting right rightAllocated) := by
  have results := agree { allocated := leftAllocated }
    { allocated := rightAllocated } ⟨counts, empty⟩
  unfold outcome
  cases leftEnd :
    Direct.expandRoot leftSetting left { allocated := leftAllocated } with
  | ok leftValue leftTrail =>
      cases rightEnd : Direct.expandRoot rightSetting right
        { allocated := rightAllocated } with
      | ok rightValue rightTrail =>
          rw [leftEnd, rightEnd] at results
          obtain ⟨_, finalCounts, triples⟩ := results
          exact .succeed triples finalCounts
      | error failure rightTrail =>
          rw [leftEnd, rightEnd] at results
          exact .rightExcused results
  | error leftFailure leftTrail =>
      cases rightEnd : Direct.expandRoot rightSetting right
        { allocated := rightAllocated } with
      | ok value rightTrail =>
          rw [leftEnd, rightEnd] at results
          exact .leftExcused results
      | error rightFailure rightTrail =>
          rw [leftEnd, rightEnd] at results
          rcases results with leftOut | rightOut | ⟨failures, finalCounts⟩
          · exact .leftExcused leftOut
          · exact .rightExcused rightOut
          · exact .fail failures finalCounts

end RdfTemplates.Direct.Correspondence
