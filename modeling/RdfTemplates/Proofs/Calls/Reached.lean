import RdfTemplates.Proofs.Calls.Graph
import RdfTemplates.Proofs.Direct.Refinement
import RdfTemplates.Proofs.Library.Construction

/-!
# Expansion depends on what is reached

The expansion of a root looks up the templates that are reached from its name,
and nothing else of the library.  So where two libraries agree on these,
whatever else they hold and in whatever order, the outcome is the same.
-/

namespace RdfTemplates

/-- A root name means the same in two libraries, and under every name that is
reached from its meaning they have the same template, or both have none. -/
structure Library.Agrees (library other : Library) (rootName : String) :
    Prop where
  resolved : other.resolveRoot rootName = library.resolveRoot rootName
  templates : ∀ name, library.resolveRoot rootName = .ok name →
    ∀ reached, library.Reaches name reached →
      other.find? reached = library.find? reached

namespace Expansion

section Body

variable {expand other : Instance → Expansion Unit} {names : List String}

mutual

theorem argumentValue_congr
    (alike : ∀ inst, inst.template ∈ names → expand inst = other inst)
    (scope : ScopeId) (placeholders : Placeholders) :
    ∀ argument : Argument, argument.calledNames ⊆ names →
      argumentValue expand scope placeholders argument =
        argumentValue other scope placeholders argument
  | .term _, _ => by simp only [argumentValue]
  | .nested template arguments, called => by
      simp only [Argument.calledNames, List.cons_subset] at called
      obtain ⟨templateCalled, argumentsCalled⟩ := called
      have nested :
          ∀ values, expand ⟨template, values⟩ = other ⟨template, values⟩ :=
        fun values => alike ⟨template, values⟩ templateCalled
      simp only [argumentValue, nested,
        argumentValues_congr alike scope placeholders arguments argumentsCalled]

theorem argumentValues_congr
    (alike : ∀ inst, inst.template ∈ names → expand inst = other inst)
    (scope : ScopeId) (placeholders : Placeholders) :
    ∀ arguments : List Argument, Argument.listCalledNames arguments ⊆ names →
      argumentValues expand scope placeholders arguments =
        argumentValues other scope placeholders arguments
  | [], _ => by simp only [argumentValues]
  | argument :: arguments, called => by
      simp only [Argument.listCalledNames, List.append_subset] at called
      obtain ⟨argumentCalled, argumentsCalled⟩ := called
      have rest :
          ∀ placeholders, argumentValues expand scope placeholders arguments =
            argumentValues other scope placeholders arguments :=
        fun placeholders => argumentValues_congr alike scope placeholders
          arguments argumentsCalled
      simp only [argumentValues, rest,
        argumentValue_congr alike scope placeholders argument argumentCalled]

end

variable (alike : ∀ inst, inst.template ∈ names → expand inst = other inst)

include alike

theorem walkPattern_congr (scope : ScopeId) (placeholders : Placeholders)
    {pattern : Pattern} (called : pattern.calledNames ⊆ names) :
    walkPattern expand scope placeholders pattern =
      walkPattern other scope placeholders pattern := by
  cases pattern with
  | triple triple => simp only [walkPattern]
  | nested template arguments =>
      simp only [walkPattern,
        argumentValue_congr alike scope placeholders _ called]

theorem walkBody_congr (scope : ScopeId) (placeholders : Placeholders)
    {body : List Pattern}
    (called : ∀ pattern ∈ body, pattern.calledNames ⊆ names) :
    walkBody expand scope placeholders body =
      walkBody other scope placeholders body := by
  induction body generalizing placeholders with
  | nil => rfl
  | cons pattern body induction =>
      obtain ⟨patternCalled, bodyCalled⟩ := List.forall_mem_cons.mp called
      simp only [walkBody,
        walkPattern_congr alike scope placeholders patternCalled,
        fun placeholders => induction placeholders bodyCalled]

end Body

section Calls

variable {expand other : Instance → Expansion Unit} {template : Template}
  (alike : ∀ inst, inst.template ∈ template.calledNames →
    expand inst = other inst)

include alike

theorem expandRow_congr (defaults : ScopeId) (row : List Term) :
    expandRow expand template defaults row =
      expandRow other template defaults row := by
  have called :
      ∀ pattern ∈ template.body, pattern.calledNames ⊆ template.calledNames :=
    fun _ member _ named => Template.mem_calledNames_of_mem member named
  simp only [expandRow, fun scope => walkBody_congr alike scope {} called]

theorem expandEachRow_congr (defaults : ScopeId) (rows : List (List Term)) :
    expandEachRow expand template defaults rows =
      expandEachRow other template defaults rows := by
  induction rows with
  | nil => rfl
  | cons row rows induction =>
      rw [expandEachRow, expandEachRow, expandRow_congr alike defaults row,
        induction]

end Calls

theorem check_error_bind {α β : Type} (fault : Fault) (step : α → Expansion β) :
    (check (.error fault) >>= step) = fail fault :=
  rfl

/-- A call looks up its own template, and goes on with the instances in its
body. -/
theorem expandCall_congr {library other : Library}
    {expand expandOther : Instance → Expansion Unit} (call : Instance)
    (same : other.find? call.template = library.find? call.template)
    (alike : ∀ callee : Instance, library.Calls call.template callee.template →
      expand callee = expandOther callee) :
    expandCall library expand call = expandCall other expandOther call := by
  cases found : library.find? call.template with
  | none =>
      simp only [expandCall, Library.lookup, same, found, check_error_bind]
  | some template =>
      have nested :
          ∀ callee : Instance, callee.template ∈ template.calledNames →
            expand callee = expandOther callee :=
        fun callee called => alike callee ⟨template, found, called⟩
      simp only [expandCall, Library.lookup, same, found, check, pure_bind,
        expandEachRow_congr nested]

/-- What is reached from a callee is reached from its caller, so the agreement
goes down with the calls. -/
theorem expandWithin_congr {library other : Library} (room : Nat)
    {inst : Instance}
    (same : ∀ reached, library.Reaches inst.template reached →
      other.find? reached = library.find? reached) :
    expandWithin library room inst = expandWithin other room inst := by
  induction room generalizing inst with
  | zero => rw [expandWithin, expandWithin]
  | succ room induction =>
      by_cases isTriple : inst.template = Vocabulary.ottrTriple
      · rw [expandWithin_triple _ isTriple, expandWithin_triple _ isTriple]
      · rw [expandWithin_succ room isTriple, expandWithin_succ room isTriple]
        congr 1
        apply expandCall_congr inst (same inst.template .refl)
        intro callee called
        by_cases calleeIsTriple : callee.template = Vocabulary.ottrTriple
        · rw [expandWithin_triple _ calleeIsTriple,
            expandWithin_triple _ calleeIsTriple]
        · apply induction
          intro reached path
          exact same reached (path.head ⟨called, calleeIsTriple⟩)

theorem expandRoot_congr {library other : Library} {root : Instance}
    (agrees : library.Agrees other root.template) :
    expandRoot library root = expandRoot other root := by
  cases resolved : library.resolveRoot root.template with
  | error fault =>
      simp only [expandRoot, resolved, agrees.resolved, check_error_bind]
  | ok name =>
      have within :
          ∀ room, expandWithin library room { root with template := name } =
            expandWithin other room { root with template := name } :=
        fun room => expandWithin_congr room (agrees.templates name resolved)
      simp only [expandRoot, resolved, agrees.resolved, check, pure_bind,
        expandInstance, within]

end Expansion

/-! ## What else a library holds -/

namespace Library

variable {library other : Library}

theorem Agrees.of_perm (built : library.Built)
    (shuffled : library.templates.Perm other.templates)
    (prefixes : other.prefixes = library.prefixes) (rootName : String) :
    library.Agrees other rootName where
  resolved := by
    have present :
        ∀ name, other.hasInstances name = library.hasInstances name := by
      intro name
      rw [hasInstances, hasInstances, contains, contains, shuffled.any_eq]
    simp only [resolveRoot, unabbreviate?, present, prefixes]
  templates := fun _ _ reached _ => find?_eq_of_perm built shuffled reached

theorem Agrees.of_defineAll {extended : Library} {templates : List Template}
    {rootName : String}
    (accepted : (library.defineAll templates).2 = .ok extended)
    (resolved : extended.resolveRoot rootName = library.resolveRoot rootName)
    (unrelated : ∀ name, library.resolveRoot rootName = .ok name →
      ∀ template ∈ templates, ¬library.Reaches name template.name) :
    library.Agrees extended rootName := by
  refine ⟨resolved, ?_⟩
  intro name meant reached path
  have notAdded : templates.find? (·.name == reached) = none := by
    rw [List.find?_eq_none]
    intro template member named
    have sameName : template.name = reached := by simpa using named
    exact unrelated name meant template member (sameName ▸ path)
  rw [defineAll_eq_ok accepted, find?, find?, List.find?_append, notAdded,
    Option.or_none]

theorem Agrees.of_addPrefix {short namespaceIri rootName : String}
    (resolved : (library.addPrefix short namespaceIri).resolveRoot rootName =
      library.resolveRoot rootName) :
    library.Agrees (library.addPrefix short namespaceIri) rootName :=
  ⟨resolved, fun _ _ _ _ => rfl⟩

/-- Nothing outside a set of names is reached from it if no body leads out of
it. -/
theorem Reaches.mem {name reached : String}
    (path : library.Reaches name reached) {names : List String}
    (member : name ∈ names)
    (closed : ∀ template ∈ library.templates, template.name ∈ names →
      template.calledNames ⊆ names) :
    reached ∈ names := by
  induction path with
  | refl => exact member
  | @tail caller callee _ nests induction =>
      obtain ⟨⟨template, found, called⟩, _⟩ := nests
      obtain ⟨callerMember, named⟩ := mem_and_name_of_find? found
      exact closed template callerMember (named ▸ induction) called

end Library

/-- The outcome of a root depends on the meaning of its name and on the
templates that are reached from it.  So the order of definitions does not
matter, and neither do more templates that are not reached nor more prefixes, as
long as the root means the same. -/
theorem Expansion.outcome_reached (library : Library) (context : Context)
    (root : Instance) :
    (∀ other : Library, library.Agrees other root.template →
      outcome library context root = outcome other context root) ∧
      (∀ other : Library, library.Built →
        library.templates.Perm other.templates →
        other.prefixes = library.prefixes →
        outcome library context root = outcome other context root) ∧
      (∀ (templates : List Template) (extended : Library),
        (library.defineAll templates).2 = .ok extended →
          extended.resolveRoot root.template =
            library.resolveRoot root.template →
          (∀ name, library.resolveRoot root.template = .ok name →
            ∀ template ∈ templates, ¬library.Reaches name template.name) →
          outcome library context root = outcome extended context root) ∧
      (∀ short namespaceIri : String,
        (library.addPrefix short namespaceIri).resolveRoot root.template =
          library.resolveRoot root.template →
          outcome library context root =
            outcome (library.addPrefix short namespaceIri) context root) := by
  have agreeing : ∀ other : Library, library.Agrees other root.template →
      outcome library context root = outcome other context root := by
    intro other agrees
    rw [outcome, outcome, expandRoot_congr agrees]
  refine ⟨agreeing, ?_, ?_, ?_⟩
  · intro other built shuffled prefixes
    exact agreeing other (.of_perm built shuffled prefixes root.template)
  · intro templates extended accepted resolved unrelated
    exact agreeing extended (.of_defineAll accepted resolved unrelated)
  · intro short namespaceIri resolved
    exact agreeing _ (.of_addPrefix resolved)

/-- A page is reached from a memo, but no memo from a page. -/
def memoTemplate : Template where
  signature := { name := "Memo", parameters := [{ name := "about" }] }
  body := [.nested "Page" [.term (.var "about")]]

/-- The notes with a memo in the place of the stub. -/
def memoLibrary : Library where
  templates := noteTemplates.take 2 ++ [memoTemplate]

theorem Expansion.outcome_page_among_others :
    noteLibrary.Agrees memoLibrary "Page" ∧ noteLibrary.Built ∧
      (noteLibrary.defineAll [memoTemplate]).2 =
        .ok { templates := noteTemplates ++ [memoTemplate] } ∧
      (∀ context : Context, outcome noteLibrary context pageRoot =
        outcome memoLibrary context pageRoot ∧
        outcome noteLibrary context pageRoot =
          outcome { templates := noteTemplates.reverse } context pageRoot ∧
        outcome noteLibrary context pageRoot =
          outcome { templates := noteTemplates ++ [memoTemplate] }
            context pageRoot ∧
        outcome noteLibrary context pageRoot =
          outcome (noteLibrary.addPrefix "Page" "http://example.org/") context
            pageRoot) := by
  have resolved : noteLibrary.resolveRoot "Page" = .ok "Page" := by decide
  have reachedNames : ∀ reached, noteLibrary.Reaches "Page" reached →
      reached ∈ ["Page", "Note"] :=
    fun reached path => path.mem (by decide) (by decide)
  have agrees : noteLibrary.Agrees memoLibrary "Page" := by
    refine ⟨by decide, ?_⟩
    intro name meant reached path
    rw [resolved, Except.ok.injEq] at meant
    have sameTemplates : ∀ reached ∈ ["Page", "Note"],
        memoLibrary.find? reached = noteLibrary.find? reached := by decide
    exact sameTemplates reached (reachedNames reached (meant ▸ path))
  have accepted : (noteLibrary.defineAll [memoTemplate]).2 =
      .ok { templates := noteTemplates ++ [memoTemplate] } := by decide
  refine ⟨agrees, noteLibrary_built, accepted, ?_⟩
  intro context
  obtain ⟨agreeing, shuffled, extended, prefixed⟩ :=
    outcome_reached noteLibrary context pageRoot
  refine ⟨agreeing memoLibrary agrees, ?_, ?_,
    prefixed "Page" "http://example.org/" (by decide)⟩
  · exact shuffled _ noteLibrary_built
      (List.reverse_perm noteTemplates).symm rfl
  · apply extended [memoTemplate] _ accepted (by decide)
    intro name meant template added path
    rw [List.mem_singleton.mp added] at path
    rw [show pageRoot.template = "Page" from rfl, resolved, Except.ok.injEq]
      at meant
    exact absurd (reachedNames _ (meant ▸ path)) (by decide)

end RdfTemplates
