import RdfTemplates.Proofs.Calls.Graph
import RdfTemplates.Proofs.Course
import RdfTemplates.Proofs.Direct.Semantics

/-!
# Walks over bodies

A body keeps to a contract if the terms, the triples and the nested instances in
it do.  The values that are passed from the terms to the triples and instances
may be of a kind of their own, as long as it lasts while the run goes on.
-/

namespace RdfTemplates.Direct

section Body

variable {course : Course Trail} {origin : Trail} {stem : String}
  {calls : List Instance} {expand : Instance → Run Unit}
  {values : String → Option Term} {names : List String}
  {kind : Trail → Term → Prop} {known : Trail → Placeholders → Prop}

/-- What the parts of a body have to keep to, from some state on: its terms have
values of a kind, its triples and its instances of the given names are made of
such values. -/
structure Walks (course : Course Trail) (origin : Trail) (stem : String)
    (calls : List Instance) (expand : Instance → Run Unit)
    (values : String → Option Term) (names : List String)
    (kind : Trail → Term → Prop) (known : Trail → Placeholders → Prop) :
    Prop where
  lasts : ∀ {first second term}, course.later first second → kind first term →
    kind second term
  knownLasts : ∀ {first second placeholders}, course.later first second →
    known first placeholders → known second placeholders
  unused : known origin {}
  absent : ∀ trail, kind trail .none
  bodyTerm : ∀ {trail placeholders} term, course.later origin trail →
    known trail placeholders →
    course.MetFrom trail
      (fun last result => kind last result.1 ∧ known last result.2)
      (bodyTerm stem calls values placeholders term)
  writeTriple : ∀ {trail subject predicate object}, course.later origin trail →
    kind trail subject → kind trail predicate → kind trail object →
    course.MetFrom trail (fun _ _ => True)
      (writeTriple stem calls subject predicate object)
  nested : ∀ {trail inst}, course.later origin trail → inst.template ∈ names →
    (∀ argument ∈ inst.arguments, kind trail argument) →
      course.MetFrom trail (fun _ _ => True) (expand inst)

namespace Walks

mutual

theorem argumentValue
    (walks : Walks course origin stem calls expand values names kind known)
    {trail : Trail} (reached : course.later origin trail)
    {placeholders : Placeholders}
    (placeholdersKnown : known trail placeholders) :
    ∀ argument : Argument, argument.calledNames ⊆ names →
      course.MetFrom trail
        (fun last result => kind last result.1 ∧ known last result.2)
        (argumentValue stem calls expand values placeholders argument)
  | .term term, _ => by
      simp only [Direct.argumentValue]
      exact walks.bodyTerm term reached placeholdersKnown
  | .nested template arguments, called => by
      simp only [Argument.calledNames, List.cons_subset] at called
      obtain ⟨templateCalled, argumentsCalled⟩ := called
      simp only [Direct.argumentValue]
      apply (walks.argumentValues reached placeholdersKnown arguments
        argumentsCalled).bind
      intro second ⟨terms, placeholders⟩ secondLater
        ⟨termsKind, placeholdersKnown⟩
      have secondReached := course.trans reached secondLater
      apply (walks.nested secondReached templateCalled termsKind).bind
      intro third _ thirdLater _
      apply Course.MetFrom.pure
      intro last lastLater
      have later := course.trans thirdLater lastLater
      refine ⟨?_, walks.knownLasts later placeholdersKnown⟩
      -- The first argument was evaluated before the instance was expanded.
      cases terms with
      | nil => exact walks.absent last
      | cons term terms =>
          exact walks.lasts later (termsKind term List.mem_cons_self)

theorem argumentValues
    (walks : Walks course origin stem calls expand values names kind known)
    {trail : Trail} (reached : course.later origin trail)
    {placeholders : Placeholders}
    (placeholdersKnown : known trail placeholders) :
    ∀ arguments : List Argument, Argument.listCalledNames arguments ⊆ names →
      course.MetFrom trail (fun last result =>
        (∀ term ∈ result.1, kind last term) ∧ known last result.2)
        (argumentValues stem calls expand values placeholders arguments)
  | [], _ => by
      simp only [Direct.argumentValues]
      apply Course.MetFrom.pure
      intro last lastLater
      exact ⟨List.forall_mem_nil _,
        walks.knownLasts lastLater placeholdersKnown⟩
  | argument :: arguments, called => by
      simp only [Argument.listCalledNames, List.append_subset] at called
      obtain ⟨argumentCalled, argumentsCalled⟩ := called
      simp only [Direct.argumentValues]
      apply (walks.argumentValue reached placeholdersKnown argument
        argumentCalled).bind
      intro second ⟨term, placeholders⟩ secondLater
        ⟨termKind, placeholdersKnown⟩
      have secondReached := course.trans reached secondLater
      apply (walks.argumentValues secondReached placeholdersKnown arguments
        argumentsCalled).bind
      intro third ⟨terms, placeholders⟩ thirdLater
        ⟨termsKind, placeholdersKnown⟩
      apply Course.MetFrom.pure
      intro last lastLater
      refine ⟨?_, walks.knownLasts lastLater placeholdersKnown⟩
      intro value member
      rcases List.mem_cons.mp member with rfl | member
      · exact walks.lasts (course.trans thirdLater lastLater) termKind
      · exact walks.lasts lastLater (termsKind value member)

end

theorem walkPattern
    (walks : Walks course origin stem calls expand values names kind known)
    {trail : Trail} (reached : course.later origin trail)
    {placeholders : Placeholders} (placeholdersKnown : known trail placeholders)
    {pattern : Pattern} (called : pattern.calledNames ⊆ names) :
    course.MetFrom trail known
      (walkPattern stem calls expand values placeholders pattern) := by
  cases pattern with
  | triple triple =>
      simp only [Direct.walkPattern]
      apply (walks.bodyTerm triple.subject reached placeholdersKnown).bind
      intro second ⟨subject, placeholders⟩ secondLater
        ⟨subjectKind, placeholdersKnown⟩
      have secondReached := course.trans reached secondLater
      apply (walks.bodyTerm triple.predicate secondReached
        placeholdersKnown).bind
      intro third ⟨predicate, placeholders⟩ thirdLater
        ⟨predicateKind, placeholdersKnown⟩
      have thirdReached := course.trans secondReached thirdLater
      apply (walks.bodyTerm triple.object thirdReached placeholdersKnown).bind
      intro fourth ⟨object, placeholders⟩ fourthLater
        ⟨objectKind, placeholdersKnown⟩
      have fourthReached := course.trans thirdReached fourthLater
      have subjectLasts :=
        walks.lasts (course.trans thirdLater fourthLater) subjectKind
      have predicateLasts := walks.lasts fourthLater predicateKind
      apply (walks.writeTriple fourthReached subjectLasts predicateLasts
        objectKind).bind
      intro last _ lastLater _
      apply Course.MetFrom.pure
      intro state stateLater
      exact walks.knownLasts (course.trans lastLater stateLater)
        placeholdersKnown
  | nested template arguments =>
      simp only [Direct.walkPattern]
      apply (walks.argumentValue reached placeholdersKnown _ called).bind
      intro last ⟨_, placeholders⟩ _ ⟨_, placeholdersKnown⟩
      apply Course.MetFrom.pure
      intro state stateLater
      exact walks.knownLasts stateLater placeholdersKnown

theorem walkBody
    (walks : Walks course origin stem calls expand values names kind known)
    {trail : Trail} (reached : course.later origin trail)
    {placeholders : Placeholders} (placeholdersKnown : known trail placeholders)
    {body : List Pattern}
    (called : ∀ pattern ∈ body, pattern.calledNames ⊆ names) :
    course.MetFrom trail (fun _ _ => True)
      (walkBody stem calls expand values placeholders body) := by
  induction body generalizing trail placeholders with
  | nil =>
      apply Course.MetFrom.pure
      intro _ _
      trivial
  | cons pattern body induction =>
      obtain ⟨patternCalled, bodyCalled⟩ := List.forall_mem_cons.mp called
      simp only [Direct.walkBody]
      apply (walks.walkPattern reached placeholdersKnown patternCalled).bind
      intro next placeholders nextLater placeholdersKnown
      exact induction (course.trans reached nextLater) placeholdersKnown
        bodyCalled

end Walks

/-- A row keeps to a contract if the walk over the body does, with the values of
the row. -/
theorem metFrom_expandRow {template : Template} {row : List Term}
    (walks : Walks course origin stem calls expand
      (rowValue template.signature.parameters
        (Expansion.fillRow template.signature.parameters row))
      template.calledNames kind known) :
    course.MetFrom origin (fun _ _ => True)
      (expandRow stem calls expand template row) := by
  simp only [expandRow]
  split
  · apply Course.MetFrom.pure
    intro _ _
    trivial
  · apply walks.walkBody (course.refl origin) walks.unused
    intro pattern member name called
    exact template.mem_calledNames_of_mem member called

theorem metFrom_expandEachRow {template : Template} {rows : List (List Term)}
    (each : ∀ row ∈ rows, course.MetFrom origin (fun _ _ => True)
      (expandRow stem calls expand template row)) :
    course.MetFrom origin (fun _ _ => True)
      (expandEachRow stem calls expand template rows) := by
  induction rows with
  | nil =>
      apply Course.MetFrom.pure
      intro _ _
      trivial
  | cons row rows induction =>
      obtain ⟨first, others⟩ := List.forall_mem_cons.mp each
      simp only [expandEachRow]
      apply first.bind
      intro next _ later _
      exact (induction others).after later

end Body

/-! ## Instances -/

/-- An instance becomes an active call inside the others. -/
structure Setting.Enters (setting : Setting) (calls : List Instance)
    (inst : Instance) : Prop where
  accepted : setting.refuses calls inst = false
  room : calls.length < setting.maxDepth

/-- What holds of triples and of refused calls, and passes from the instances in
a call to the call, holds of the expansion of every instance. -/
theorem expandWithin_induction {setting : Setting}
    {motive : List Instance → Instance → Run Unit → Prop}
    (triple : ∀ {calls inst}, inst.template = Vocabulary.ottrTriple →
      motive calls inst (writeTripleInstance setting.stem calls inst.arguments))
    (refused : ∀ {calls inst}, setting.refuses calls inst = true →
      motive calls inst (fail calls (.cyclicExpansion inst)))
    (full : ∀ {calls inst}, calls.length = setting.maxDepth →
      motive calls inst (fail calls (.depthExceeded setting.maxDepth)))
    (call : ∀ {calls inst expand}, setting.Enters calls inst →
      (∀ callee, motive (inst :: calls) callee (expand callee)) →
        motive calls inst (expandCall setting (inst :: calls) expand inst))
    (room : Nat) (calls : List Instance) (inst : Instance)
    (bounded : room + calls.length = setting.maxDepth) :
    motive calls inst (expandWithin setting room calls inst) := by
  induction room generalizing calls inst with
  | zero =>
      by_cases isTriple : inst.template = Vocabulary.ottrTriple
      · rw [expandWithin_triple 0 isTriple]
        exact triple isTriple
      · cases accepted : setting.refuses calls inst with
        | true =>
            rw [expandWithin_refused 0 isTriple accepted]
            exact refused accepted
        | false =>
            rw [expandWithin_zero isTriple accepted]
            exact full (by omega)
  | succ room induction =>
      by_cases isTriple : inst.template = Vocabulary.ottrTriple
      · rw [expandWithin_triple (room + 1) isTriple]
        exact triple isTriple
      · cases accepted : setting.refuses calls inst with
        | true =>
            rw [expandWithin_refused (room + 1) isTriple accepted]
            exact refused accepted
        | false =>
            rw [expandWithin_succ room isTriple accepted]
            apply call ⟨accepted, by omega⟩
            intro callee
            apply induction (inst :: calls) callee
            simp only [List.length_cons]
            omega

end RdfTemplates.Direct
