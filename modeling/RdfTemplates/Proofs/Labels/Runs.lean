import RdfTemplates.Proofs.Agreement
import RdfTemplates.Proofs.Direct.Semantics
import RdfTemplates.Proofs.Labels.Calls
import RdfTemplates.Proofs.Library.Construction

/-!
# Runs up to labels

Direct expansion never looks at the label of a blank node, except where it asks
whether a call is active already.  Two runs that draw their labels from
corresponding supplies go through the same steps, from matching arguments to
matching triples.
-/

namespace RdfTemplates

/-- Two triples whose terms match. -/
structure Triple.Matches (labels : String → String → Prop)
    (left right : Triple) : Prop where
  subject : left.subject.Matches labels right.subject
  predicate : left.predicate.Matches labels right.predicate
  object : left.object.Matches labels right.object

theorem Triple.Matches.eq_of_eq {left right : Triple}
    (matching : left.Matches Eq right) : left = right := by
  obtain ⟨subject, predicate, object⟩ := left
  obtain ⟨subjects, predicates, objects⟩ := matching
  simp only at subjects predicates objects
  rw [subjects.eq_of_eq, predicates.eq_of_eq, objects.eq_of_eq]

namespace Direct

/-- Two supplies of labels with what two runs that draw on them may put out, and
the failures in which they may end. -/
structure Correspondence extends LabelSupply where
  outputs : List Triple → List Triple → Prop
  emitted {lefts rights : List Triple} {left right : Triple} :
    outputs lefts rights → left.Matches labels right →
      outputs (lefts ++ [left]) (rights ++ [right])
  leftExcused : Failure → Prop
  rightExcused : Failure → Prop
  failures : Failure → Failure → Prop

namespace Correspondence

open Comparison

variable (corr : Correspondence)

/-- Both runs have used corresponding numbers of labels and put out
corresponding triples. -/
def comparison : Comparison Trail Trail where
  states left right :=
    corr.counts left.allocated right.allocated ∧
      corr.outputs left.triples right.triples
  leftExcused := corr.leftExcused
  rightExcused := corr.rightExcused
  failures left leftTrail right rightTrail :=
    corr.failures left right ∧
      corr.counts leftTrail.allocated rightTrail.allocated

/-- Two failures that answer each other, or one of which is excused. -/
def Answered (left right : Failure) : Prop :=
  corr.leftExcused left ∨ corr.rightExcused right ∨ corr.failures left right

/-- Matching faults that arise inside these calls are answered. -/
def Inside (leftCalls rightCalls : List Instance) : Prop :=
  ∀ left right : Fault, left.MatchesInside corr.labels right →
    corr.Answered ⟨left, leftCalls⟩ ⟨right, rightCalls⟩

/-- Two runs go through the same steps. -/
def Agree {α β : Type} (values : α → β → Prop) (left : Run α)
    (right : Run β) : Prop :=
  corr.comparison.Agree values left right

/-- Two body terms with the placeholders met so far. -/
def BodyTerms {α : Type} (values : α → α → Prop)
    (left right : α × Placeholders) : Prop :=
  values left.1 right.1 ∧ left.2.Matches corr.labels right.2

variable {corr} {leftCalls rightCalls : List Instance} {α β : Type}

theorem failBoth {values : α → β → Prop} {left right : Fault}
    (answered : corr.Answered ⟨left, leftCalls⟩ ⟨right, rightCalls⟩) :
    corr.Agree values (Direct.fail leftCalls left)
      (Direct.fail rightCalls right) := by
  intro leftTrail rightTrail states
  rcases answered with leftOut | rightOut | answers
  · exact Or.inl leftOut
  · exact Or.inr (Or.inl rightOut)
  · exact Or.inr (Or.inr ⟨answers, states.1⟩)

theorem failLeft {values : α → β → Prop} {fault : Fault}
    (excused : corr.leftExcused ⟨fault, leftCalls⟩) (run : Run β) :
    corr.Agree values (Direct.fail leftCalls fault) run := by
  intro leftTrail rightTrail states
  show corr.comparison.Results values (.error ⟨fault, leftCalls⟩ leftTrail)
    (run rightTrail)
  cases run rightTrail with
  | ok value trail => exact excused
  | error failure trail => exact Or.inl excused

theorem failRight {values : α → β → Prop} {fault : Fault}
    (excused : corr.rightExcused ⟨fault, rightCalls⟩) (run : Run α) :
    corr.Agree values run (Direct.fail rightCalls fault) := by
  intro leftTrail rightTrail states
  show corr.comparison.Results values (run leftTrail)
    (.error ⟨fault, rightCalls⟩ rightTrail)
  cases run leftTrail with
  | ok value trail => exact excused
  | error failure trail => exact Or.inr (Or.inl excused)

theorem fail {values : α → β → Prop} (inside : corr.Inside leftCalls rightCalls)
    {left right : Fault} (matching : left.MatchesInside corr.labels right) :
    corr.Agree values (Direct.fail leftCalls left)
      (Direct.fail rightCalls right) :=
  failBoth (inside left right matching)

theorem check {values : α → β → Prop}
    (inside : corr.Inside leftCalls rightCalls) {left : Except Fault α}
    {right : Except Fault β}
    (results : ChecksMatch (Fault.MatchesInside corr.labels) values
      left right) :
    corr.Agree values (Direct.check leftCalls left)
      (Direct.check rightCalls right) := by
  cases results with
  | ok related => exact Agree.pure related
  | error matching => exact fail inside matching

/-! ## Emission -/

theorem emit {left right : Triple} (matching : left.Matches corr.labels right) :
    corr.Agree Eq (Direct.emit left) (Direct.emit right) := by
  intro leftTrail rightTrail states
  exact ⟨rfl, states.1, corr.emitted states.2 matching⟩

theorem freshBlank :
    corr.Agree (Term.Matches corr.labels) (Direct.freshBlank corr.leftStem)
      (Direct.freshBlank corr.rightStem) := by
  intro leftTrail rightTrail states
  exact ⟨.blank (corr.fresh states.1), corr.next states.1, states.2⟩

theorem freshBlanks (count : Nat) :
    corr.Agree (List.Forall₂ (Term.Matches corr.labels))
      (Direct.freshBlanks corr.leftStem count)
      (Direct.freshBlanks corr.rightStem count) := by
  induction count with
  | zero => exact Agree.pure .nil
  | succ count induction =>
      apply freshBlank.bind
      intro _ _ node
      apply induction.bind
      intro _ _ nodes
      exact Agree.pure (.cons node nodes)

theorem listNode_related {lefts rights : List Term}
    (cells : List.Forall₂ (Term.Matches corr.labels) lefts rights) :
    (Expansion.listNode lefts).Matches corr.labels
      (Expansion.listNode rights) := by
  cases cells with
  | nil => exact .iri _
  | cons head _ => exact head

mutual

theorem itemValue (inside : corr.Inside leftCalls rightCalls) :
    ∀ {left right : Term}, left.Matches corr.labels right →
      corr.Agree (Term.Matches corr.labels)
        (Direct.itemValue corr.leftStem leftCalls left)
        (Direct.itemValue corr.rightStem rightCalls right)
  | .list _, _, .list items => by
      simp only [Direct.itemValue, items.length_eq]
      apply (freshBlanks _).bind
      intro _ _ cells
      apply (writeCells inside items cells).bind
      intro _ _ _
      exact Agree.pure (listNode_related cells)
  | .none, _, .none => fail inside ⟨.invalidTriple _ _ .none, rfl⟩
  | .var _, _, .var name => fail inside ⟨.invalidTriple _ _ (.var name), rfl⟩
  | .iri _, _, .iri name => Agree.pure (.iri name)
  | .literal _, _, .literal value => Agree.pure (.literal value)
  | .blank _, _, .blank related => Agree.pure (.blank related)

theorem writeCells (inside : corr.Inside leftCalls rightCalls) :
    ∀ {lefts rights leftCells rightCells : List Term},
      List.Forall₂ (Term.Matches corr.labels) lefts rights →
      List.Forall₂ (Term.Matches corr.labels) leftCells rightCells →
      corr.Agree Eq (Direct.writeCells corr.leftStem leftCalls lefts leftCells)
        (Direct.writeCells corr.rightStem rightCalls rights rightCells)
  | [], _, _, _, .nil, _ => by
      simp only [Direct.writeCells]
      exact Agree.pure rfl
  | _ :: _, _, [], _, .cons _ _, .nil => by
      simp only [Direct.writeCells]
      exact Agree.pure rfl
  | _ :: _, _, _ :: _, _, .cons item items, .cons cell cells => by
      simp only [Direct.writeCells]
      apply (itemValue inside item).bind
      intro _ _ value
      apply (emit ⟨cell, .iri _, value⟩).bind
      intro _ _ _
      apply (emit ⟨cell, .iri _, listNode_related cells⟩).bind
      intro _ _ _
      exact writeCells inside items cells

end

theorem objectValue (inside : corr.Inside leftCalls rightCalls)
    {left right : Term} (matching : left.Matches corr.labels right) :
    corr.Agree (Term.Matches corr.labels)
      (Direct.objectValue corr.leftStem leftCalls left)
      (Direct.objectValue corr.rightStem rightCalls right) := by
  cases matching with
  | list items => exact itemValue inside (.list items)
  | var name => exact fail inside ⟨.invalidTriple _ _ (.var name), rfl⟩
  | iri name => exact Agree.pure (.iri name)
  | literal value => exact Agree.pure (.literal value)
  | blank related => exact Agree.pure (.blank related)
  | none => exact Agree.pure .none

theorem checkPosition (inside : corr.Inside leftCalls rightCalls)
    (position : String) {left right : Term}
    (matching : left.Matches corr.labels right) (objection : Option String) :
    corr.Agree Eq (Direct.checkPosition leftCalls position left objection)
      (Direct.checkPosition rightCalls position right objection) := by
  cases objection with
  | none => exact Agree.pure rfl
  | some reason =>
      exact fail inside ⟨.invalidTriple position reason matching, rfl⟩

theorem subjectObjection?_eq {left right : Term}
    (matching : left.Matches corr.labels right) :
    Expansion.subjectObjection? left = Expansion.subjectObjection? right := by
  cases matching <;> rfl

theorem predicateObjection?_eq {left right : Term}
    (matching : left.Matches corr.labels right) :
    Expansion.predicateObjection? left =
      Expansion.predicateObjection? right := by
  cases matching <;> rfl

theorem writeTriple (inside : corr.Inside leftCalls rightCalls)
    {subject subject' predicate predicate' object object' : Term}
    (subjects : subject.Matches corr.labels subject')
    (predicates : predicate.Matches corr.labels predicate')
    (objects : object.Matches corr.labels object') :
    corr.Agree Eq
      (Direct.writeTriple corr.leftStem leftCalls subject predicate object)
      (Direct.writeTriple corr.rightStem rightCalls subject' predicate'
        object') := by
  unfold Direct.writeTriple
  rw [subjects.isNone_eq, predicates.isNone_eq, objects.isNone_eq,
    subjectObjection?_eq subjects, predicateObjection?_eq predicates]
  split
  · exact Agree.pure rfl
  · apply (checkPosition inside _ subjects _).bind
    intro _ _ _
    apply (checkPosition inside _ predicates _).bind
    intro _ _ _
    apply (objectValue inside objects).bind
    intro _ _ value
    exact emit ⟨subjects, predicates, value⟩

theorem writeTripleInstance (inside : corr.Inside leftCalls rightCalls)
    {lefts rights : List Term}
    (matching : List.Forall₂ (Term.Matches corr.labels) lefts rights) :
    corr.Agree Eq (Direct.writeTripleInstance corr.leftStem leftCalls lefts)
      (Direct.writeTripleInstance corr.rightStem rightCalls rights) := by
  have arity (count : Nat) : corr.Agree Eq
      (Direct.fail leftCalls (.tripleArity count) : Run Unit)
      (Direct.fail rightCalls (.tripleArity count) : Run Unit) :=
    fail inside (Fault.matchesInside_plain rfl rfl)
  match matching with
  | .cons subjects (.cons predicates (.cons objects .nil)) =>
      exact writeTriple inside subjects predicates objects
  | .nil => exact arity 0
  | .cons _ .nil => exact arity 1
  | .cons _ (.cons _ .nil) => exact arity 2
  | .cons _ (.cons _ (.cons _ (.cons _ rest))) =>
      simp only [Direct.writeTripleInstance, List.length_cons, rest.length_eq]
      exact arity _

/-! ## Bodies -/

/-- The values that two repetitions give to names match. -/
def Values (corr : Correspondence) (left right : String → Option Term) : Prop :=
  ∀ name, Option.Rel (Term.Matches corr.labels) (left name) (right name)

/-- Matching instances are expanded alike. -/
def Nested (corr : Correspondence)
    (leftExpand rightExpand : Instance → Run Unit) : Prop :=
  ∀ left right, left.Matches corr.labels right →
    corr.Agree Eq (leftExpand left) (rightExpand right)

/-- Two repetitions of a body that have matching values. -/
structure Repetitions (corr : Correspondence)
    (leftCalls rightCalls : List Instance)
    (leftExpand rightExpand : Instance → Run Unit)
    (leftValues rightValues : String → Option Term) : Prop where
  inside : corr.Inside leftCalls rightCalls
  values : corr.Values leftValues rightValues
  nested : corr.Nested leftExpand rightExpand

theorem bodyTerm (inside : corr.Inside leftCalls rightCalls)
    {leftValues rightValues : String → Option Term}
    (values : corr.Values leftValues rightValues) {left right : Placeholders}
    (placeholders : left.Matches corr.labels right) (term : Term) :
    corr.Agree (corr.BodyTerms (Term.Matches corr.labels))
      (Direct.bodyTerm corr.leftStem leftCalls leftValues left term)
      (Direct.bodyTerm corr.rightStem rightCalls rightValues right term) := by
  intro leftTrail rightTrail states
  have sources : corr.Sources ⟨corr.leftStem, leftTrail.allocated⟩
      ⟨corr.rightStem, rightTrail.allocated⟩ := ⟨rfl, rfl, states.1⟩
  obtain ⟨localized, localPlaceholders, _, _, counts⟩ :=
    LabelSupply.localize term placeholders sources
  have results := localized.substitute values
  simp only [Direct.bodyTerm]
  generalize Term.substitute leftValues _ = leftResult at results ⊢
  generalize Term.substitute rightValues _ = rightResult at results ⊢
  cases results with
  | ok related => exact ⟨⟨related, localPlaceholders⟩, counts, states.2⟩
  | @error name _ same =>
      subst same
      have matching : Fault.MatchesInside corr.labels (.unboundVariable name)
          (.unboundVariable name) := Fault.matchesInside_plain rfl rfl
      rcases inside _ _ matching with leftOut | rightOut | answers
      · exact Or.inl leftOut
      · exact Or.inr (Or.inl rightOut)
      · exact Or.inr (Or.inr ⟨answers, counts⟩)

section Body

variable {leftValues rightValues : String → Option Term}
  {leftExpand rightExpand : Instance → Run Unit}

mutual

theorem argumentValue
    (repetitions : corr.Repetitions leftCalls rightCalls leftExpand rightExpand
      leftValues rightValues) :
    ∀ (argument : Argument) {left right : Placeholders},
      left.Matches corr.labels right →
        corr.Agree (corr.BodyTerms (Term.Matches corr.labels))
          (Direct.argumentValue corr.leftStem leftCalls leftExpand leftValues
            left argument)
          (Direct.argumentValue corr.rightStem rightCalls rightExpand
            rightValues right argument)
  | .term term, _, _, placeholders => by
      simp only [Direct.argumentValue]
      exact bodyTerm repetitions.inside repetitions.values placeholders term
  | .nested template arguments, _, _, placeholders => by
      simp only [Direct.argumentValue]
      apply (argumentValues repetitions arguments placeholders).bind
      rintro ⟨leftTerms, left⟩ ⟨rightTerms, right⟩ ⟨terms, rest⟩
      apply (repetitions.nested ⟨template, leftTerms⟩ ⟨template, rightTerms⟩
        ⟨rfl, terms⟩).bind
      intro _ _ _
      refine Agree.pure ⟨?_, rest⟩
      cases terms with
      | nil => exact .none
      | cons head _ => exact head

theorem argumentValues
    (repetitions : corr.Repetitions leftCalls rightCalls leftExpand rightExpand
      leftValues rightValues) :
    ∀ (arguments : List Argument) {left right : Placeholders},
      left.Matches corr.labels right →
        corr.Agree (corr.BodyTerms (List.Forall₂ (Term.Matches corr.labels)))
          (Direct.argumentValues corr.leftStem leftCalls leftExpand leftValues
            left arguments)
          (Direct.argumentValues corr.rightStem rightCalls rightExpand
            rightValues right arguments)
  | [], _, _, placeholders => by
      simp only [Direct.argumentValues]
      exact Agree.pure ⟨.nil, placeholders⟩
  | argument :: arguments, _, _, placeholders => by
      simp only [Direct.argumentValues]
      apply (argumentValue repetitions argument placeholders).bind
      rintro ⟨_, left⟩ ⟨_, right⟩ ⟨head, placeholders⟩
      apply (argumentValues repetitions arguments placeholders).bind
      rintro ⟨_, left⟩ ⟨_, right⟩ ⟨tail, placeholders⟩
      exact Agree.pure ⟨.cons head tail, placeholders⟩

end

theorem walkPattern
    (repetitions : corr.Repetitions leftCalls rightCalls leftExpand rightExpand
      leftValues rightValues) {left right : Placeholders}
    (placeholders : left.Matches corr.labels right) (pattern : Pattern) :
    corr.Agree (Placeholders.Matches corr.labels) (Direct.walkPattern
      corr.leftStem leftCalls leftExpand leftValues left pattern)
      (Direct.walkPattern corr.rightStem rightCalls rightExpand rightValues
        right pattern) := by
  cases pattern with
  | triple triple =>
      apply (bodyTerm repetitions.inside repetitions.values placeholders
        triple.subject).bind
      rintro ⟨_, left⟩ ⟨_, right⟩ ⟨subjects, placeholders⟩
      apply (bodyTerm repetitions.inside repetitions.values placeholders
        triple.predicate).bind
      rintro ⟨_, left⟩ ⟨_, right⟩ ⟨predicates, placeholders⟩
      apply (bodyTerm repetitions.inside repetitions.values placeholders
        triple.object).bind
      rintro ⟨_, left⟩ ⟨_, right⟩ ⟨objects, placeholders⟩
      apply (writeTriple repetitions.inside subjects predicates objects).bind
      intro _ _ _
      exact Agree.pure placeholders
  | nested template arguments =>
      apply (argumentValue repetitions (.nested template arguments)
        placeholders).bind
      rintro ⟨_, left⟩ ⟨_, right⟩ ⟨_, placeholders⟩
      exact Agree.pure placeholders

theorem walkBody
    (repetitions : corr.Repetitions leftCalls rightCalls leftExpand rightExpand
      leftValues rightValues) {left right : Placeholders}
    (placeholders : left.Matches corr.labels right) (body : List Pattern) :
    corr.Agree Eq
      (Direct.walkBody corr.leftStem leftCalls leftExpand leftValues left body)
      (Direct.walkBody corr.rightStem rightCalls rightExpand rightValues right
        body) := by
  induction body generalizing left right with
  | nil => exact Agree.pure rfl
  | cons pattern body induction =>
      apply (walkPattern repetitions placeholders pattern).bind
      intro _ _ placeholders
      exact induction placeholders

end Body

/-! ## Calls -/

theorem rowValue_related {parameters : List Parameter}
    {lefts rights : List Term}
    (matching : List.Forall₂ (Term.Matches corr.labels) lefts rights) :
    corr.Values (rowValue parameters lefts) (rowValue parameters rights) := by
  intro name
  unfold rowValue
  induction parameters generalizing lefts rights with
  | nil => exact .none
  | cons parameter parameters induction =>
      cases matching with
      | nil => exact .none
      | cons head tail =>
          simp only [List.zip_cons_cons, List.find?_cons]
          cases parameter.name == name with
          | true => exact .some head
          | false => exact induction tail

section Calls

variable {leftExpand rightExpand : Instance → Run Unit}

theorem expandRow (inside : corr.Inside leftCalls rightCalls)
    (nested : corr.Nested leftExpand rightExpand) {template : Template}
    (defaults : DefaultsMatch corr.labels template.signature.parameters)
    {lefts rights : List Term}
    (matching : List.Forall₂ (Term.Matches corr.labels) lefts rights) :
    corr.Agree Eq
      (Direct.expandRow corr.leftStem leftCalls leftExpand template lefts)
      (Direct.expandRow corr.rightStem rightCalls rightExpand template
        rights) := by
  have filled := fillRow_related defaults matching
  simp only [Direct.expandRow, missingParameter?_eq filled]
  split
  · exact Agree.pure rfl
  · exact walkBody ⟨inside, rowValue_related filled, nested⟩ .nil template.body

theorem expandEachRow (inside : corr.Inside leftCalls rightCalls)
    (nested : corr.Nested leftExpand rightExpand) {template : Template}
    (defaults : DefaultsMatch corr.labels template.signature.parameters)
    {lefts rights : List (List Term)}
    (matching : List.Forall₂ (List.Forall₂ (Term.Matches corr.labels))
      lefts rights) :
    corr.Agree Eq
      (Direct.expandEachRow corr.leftStem leftCalls leftExpand template lefts)
      (Direct.expandEachRow corr.rightStem rightCalls rightExpand template
        rights) := by
  induction matching with
  | nil => exact Agree.pure rfl
  | cons row rows induction =>
      apply (expandRow inside nested defaults row).bind
      intro _ _ _
      exact induction

/-- Two settings with one library, whose type checks need not be the same: a
call is expanded alike where the checks of its arguments agree. -/
theorem expandCall_of_checks {leftSetting rightSetting : Setting}
    (leftStem : leftSetting.stem = corr.leftStem)
    (rightStem : rightSetting.stem = corr.rightStem)
    (library : leftSetting.library = rightSetting.library)
    (defaults : ∀ template ∈ leftSetting.library.templates,
      DefaultsMatch corr.labels template.signature.parameters)
    (inside : corr.Inside leftCalls rightCalls)
    (nested : corr.Nested leftExpand rightExpand) {left right : Instance}
    (matching : left.Matches corr.labels right)
    (checks : ∀ (parameters : List Parameter) (lefts rights : List Term),
      List.Forall₂ (Term.Matches corr.labels) lefts rights →
        corr.Agree Eq (Direct.check leftCalls (checkArguments left.template
          leftSetting.checkTypes parameters lefts))
          (Direct.check rightCalls (checkArguments right.template
            rightSetting.checkTypes parameters rights))) :
    corr.Agree Eq (Direct.expandCall leftSetting leftCalls leftExpand left)
      (Direct.expandCall rightSetting rightCalls rightExpand right) := by
  rw [matching.template] at checks
  unfold Direct.expandCall
  rw [library, leftStem, rightStem, matching.template]
  cases found : rightSetting.library.lookup right.template with
  | error fault =>
      rw [Library.lookup_eq_error found]
      exact fail inside (Fault.matchesInside_plain rfl rfl)
  | ok template =>
      have templateDefaults :
          DefaultsMatch corr.labels template.signature.parameters := by
        apply defaults
        rw [library]
        exact Library.mem_templates_of_lookup found
      apply (check inside
        (bindArguments_related templateDefaults matching.arguments)).bind
      intro leftBound rightBound bound
      cases bound with
      | none => exact Agree.pure rfl
      | some values =>
          apply (checks _ _ _ values).bind
          intro _ _ _
          apply (check inside (expandRows_related _ _ values)).bind
          intro _ _ rows
          exact expandEachRow inside nested templateDefaults rows

/-- Two settings that differ in stems and limits only, in a library whose
defaults match themselves. -/
structure Settings (corr : Correspondence) (left right : Setting) : Prop where
  leftStem : left.stem = corr.leftStem
  rightStem : right.stem = corr.rightStem
  library : left.library = right.library
  checkTypes : left.checkTypes = right.checkTypes
  defaults : ∀ template ∈ left.library.templates,
    DefaultsMatch corr.labels template.signature.parameters

theorem expandCall {leftSetting rightSetting : Setting}
    (settings : corr.Settings leftSetting rightSetting)
    (inside : corr.Inside leftCalls rightCalls)
    (nested : corr.Nested leftExpand rightExpand)
    {left right : Instance} (matching : left.Matches corr.labels right) :
    corr.Agree Eq (Direct.expandCall leftSetting leftCalls leftExpand left)
      (Direct.expandCall rightSetting rightCalls rightExpand right) := by
  apply expandCall_of_checks settings.leftStem settings.rightStem
    settings.library settings.defaults inside nested matching
  intro parameters lefts rights values
  rw [settings.checkTypes, matching.template]
  exact check inside (checkArguments_related _ _ parameters values)

end Calls

end Correspondence

end Direct

end RdfTemplates
