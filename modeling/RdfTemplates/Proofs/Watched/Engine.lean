import RdfTemplates.Expansion.Engine

/-!
# Watched expansion

What is in force during an expansion cannot be seen in its result: scopes are
dropped and calls ended before it.  A watched expansion goes through the same
text and takes note of the context at the moments that matter.  When its notes
are forgotten it is the expansion that it watches, from every state and with
every end.
-/

namespace RdfTemplates

/-- What has just been done, or is about to be done, in an expansion. -/
inductive Moment where
  /-- A call has become active. -/
  | entered
  /-- The defaults of a template have been bound. -/
  | prepared
  /-- The body of a template is about to be walked in a scope. -/
  | walking (template : Template) (scope : ScopeId)
  /-- A body term has been found to mean this value. -/
  | resolved (value : Term)
  /-- Terms are about to be written as a triple. -/
  | writing (terms : List Term)
  deriving DecidableEq

/-- The terms at hand at a moment, besides those of the context. -/
def Moment.terms : Moment → List Term
  | .resolved value => [value]
  | .writing terms => terms
  | .entered | .prepared | .walking _ _ => []

/-- Whether a body is about to be walked. -/
def Moment.isWalking : Moment → Bool
  | .walking _ _ => true
  | .entered | .prepared | .resolved _ | .writing _ => false

/-- A moment with the context in which it was. -/
structure Sight where
  moment : Moment
  context : Context
  deriving DecidableEq

/-- A state of an expansion with what has been seen on the way to it. -/
structure Watch where
  state : ExpansionState
  /-- The sights, newest first. -/
  sights : List Sight := []

abbrev Watched (α : Type) := EStateM Failure Watch α

namespace Watched

/-- Does a step without looking. -/
def plain {α : Type} (step : Expansion α) : Watched α := fun watch =>
  match step watch.state with
  | .ok value state => .ok value { watch with state }
  | .error failure state => .error failure { watch with state }

/-- Takes note of the present context. -/
def look (moment : Moment) : Watched Unit := fun watch =>
  .ok ()
    { watch with
      sights := { moment, context := watch.state.context } :: watch.sights }

/-- Runs a step and then changes the state, whether the step fails or not. -/
def lastly {α : Type} (change : ExpansionState → ExpansionState)
    (step : Watched α) : Watched α := fun watch =>
  match step watch with
  | .ok value watch => .ok value { watch with state := change watch.state }
  | .error failure watch =>
      .error failure { watch with state := change watch.state }

/-- Runs a step with a call active. -/
def calling (call : Instance) (step : Watched Unit) : Watched Unit := do
  plain (Expansion.enter call)
  lastly (fun state => { state with context := state.context.leave }) do
    look .entered
    step

/-- Runs a step in a new scope, which is dropped at the end. -/
def inScope (parent : Option ScopeId) (bindings : List (String × Term))
    (step : ScopeId → Watched Unit) : Watched Unit := fun watch =>
  lastly (Expansion.releaseScopes watch.state.context.scopes.size)
    (do
      let scope ← plain (Expansion.pushScope parent)
      plain (Expansion.bindNames scope bindings)
      step scope)
    watch

def bodyTerm (scope : ScopeId) (placeholders : Placeholders) (term : Term) :
    Watched (Term × Placeholders) := do
  let (value, placeholders) ← plain (Expansion.bodyTerm scope placeholders term)
  look (.resolved value)
  pure (value, placeholders)

section Body

variable (expand : Instance → Watched Unit) (scope : ScopeId)

mutual

def argumentValue (placeholders : Placeholders) :
    Argument → Watched (Term × Placeholders)
  | .term term => bodyTerm scope placeholders term
  | .nested template arguments => do
      let (values, placeholders) ← argumentValues placeholders arguments
      expand { template, arguments := values }
      pure (values.head?.getD .none, placeholders)

def argumentValues (placeholders : Placeholders) :
    List Argument → Watched (List Term × Placeholders)
  | [] => pure ([], placeholders)
  | argument :: arguments => do
      let (value, placeholders) ← argumentValue placeholders argument
      let (values, placeholders) ← argumentValues placeholders arguments
      pure (value :: values, placeholders)

end

def walkPattern (placeholders : Placeholders) : Pattern → Watched Placeholders
  | .triple triple => do
      let (subject, placeholders) ← bodyTerm scope placeholders triple.subject
      let (predicate, placeholders) ←
        bodyTerm scope placeholders triple.predicate
      let (object, placeholders) ← bodyTerm scope placeholders triple.object
      look (.writing [subject, predicate, object])
      plain (Expansion.writeTriple subject predicate object)
      pure placeholders
  | .nested template arguments => do
      let (_, placeholders) ←
        argumentValue expand scope placeholders (.nested template arguments)
      pure placeholders

def walkBody (placeholders : Placeholders) : List Pattern → Watched Unit
  | [] => pure ()
  | pattern :: body => do
      let placeholders ← walkPattern expand scope placeholders pattern
      walkBody placeholders body

end Body

def expandRow (expand : Instance → Watched Unit) (template : Template)
    (defaults : ScopeId) (row : List Term) : Watched Unit :=
  let parameters := template.signature.parameters
  let row := Expansion.fillRow parameters row
  match Expansion.missingParameter? parameters row with
  | some parameter =>
      plain (Expansion.record (.repetitionSkipped template.name parameter.name))
  | none =>
      inScope (some defaults) (Expansion.rowBindings parameters row)
        fun scope => do
        look (.walking template scope)
        walkBody expand scope {} template.body

def expandEachRow (expand : Instance → Watched Unit) (template : Template)
    (defaults : ScopeId) : List (List Term) → Watched Unit
  | [] => pure ()
  | row :: rows => do
      expandRow expand template defaults row
      expandEachRow expand template defaults rows

def expandCall (library : Library) (expand : Instance → Watched Unit)
    (call : Instance) : Watched Unit := do
  let template ← plain (Expansion.check (library.lookup call.template))
  let parameters := template.signature.parameters
  match ← plain (Expansion.check
      (bindArguments template.signature call.arguments)) with
  | none => plain (Expansion.record (.instanceSkipped call.template))
  | some values => do
      let present ← plain Expansion.context
      plain (Expansion.check
        (checkArguments call.template present.checkTypes parameters values))
      let rows ←
        plain (Expansion.check (expandRows call.template parameters values))
      plain (Expansion.record
        (.instanceExpanding call.template rows.length present.depth))
      inScope none (Expansion.defaultBindings parameters) fun defaults => do
        look .prepared
        expandEachRow expand template defaults rows

def expandWithin (library : Library) (room : Nat) (inst : Instance) :
    Watched Unit :=
  if inst.template == Vocabulary.ottrTriple then do
    look (.writing inst.arguments)
    plain (Expansion.writeTripleInstance inst.arguments)
  else
    match room with
    | 0 => do
        plain (Expansion.enter inst)
        look .entered
    | room + 1 =>
        calling inst (expandCall library (expandWithin library room) inst)

def expandInstance (library : Library) (inst : Instance) : Watched Unit := do
  let present ← plain Expansion.context
  expandWithin library (present.maxDepth - present.depth) inst

/-- A watched step that leaves the output as it was, with the triples of that
step. -/
def collecting (step : Watched Unit) : Watched (List Triple) := fun watch =>
  let output := watch.state.output
  match step { watch with state := { watch.state with output := #[] } } with
  | .ok () after =>
      .ok after.state.output.toList
        { after with state := { after.state with output } }
  | .error failure after =>
      .error failure { after with state := { after.state with output } }

def expandRoot (library : Library) (root : Instance) :
    Watched (List Triple) := do
  let name ← plain (Expansion.check (library.resolveRoot root.template))
  match Term.firstVariableIn? root.arguments with
  | some variableName => plain (Expansion.fail (.unboundVariable variableName))
  | none => collecting (expandInstance library { root with template := name })

/-! ## Forgetting the notes -/

/-- A result without what was seen on the way to it. -/
def forget {α : Type} :
    EStateM.Result Failure Watch α → EStateM.Result Failure ExpansionState α
  | .ok value watch => .ok value watch.state
  | .error failure watch => .error failure watch.state

/-- A watched step is a given step with notes. -/
def Shows {α : Type} (watched : Watched α) (step : Expansion α) : Prop :=
  ∀ watch, forget (watched watch) = step watch.state

namespace Shows

variable {α β : Type}

theorem plain (step : Expansion α) : Shows (plain step) step := by
  intro watch
  unfold Watched.plain
  cases step watch.state <;> rfl

theorem pure (value : α) : Shows (Pure.pure value) (Pure.pure value) :=
  fun _ => rfl

theorem bind {watched : Watched α} {step : Expansion α}
    {watchedRest : α → Watched β} {rest : α → Expansion β}
    (first : Shows watched step)
    (continues : ∀ value, Shows (watchedRest value) (rest value)) :
    Shows (watched >>= watchedRest) (step >>= rest) := by
  intro watch
  show forget (EStateM.bind watched watchedRest watch) =
    EStateM.bind step rest watch.state
  unfold EStateM.bind
  rw [← first watch]
  cases watched watch with
  | ok value next => exact continues value next
  | error failure next => rfl

/-- Looking changes nothing that shows. -/
theorem look_bind {moment : Moment} {watched : Watched β} {step : Expansion β}
    (same : Shows watched step) : Shows (do look moment; watched) step :=
  fun watch =>
    same { watch with sights := ⟨moment, watch.state.context⟩ :: watch.sights }

theorem lastly {change : ExpansionState → ExpansionState} {watched : Watched α}
    {step : Expansion α} (same : Shows watched step) (watch : Watch) :
    forget (lastly change watched watch) =
      match step watch.state with
      | .ok value state => .ok value (change state)
      | .error failure state => .error failure (change state) := by
  unfold Watched.lastly
  rw [← same watch]
  cases watched watch <;> rfl

theorem calling {call : Instance} {watched : Watched Unit}
    {step : Expansion Unit} (same : Shows watched step) :
    Shows (calling call watched) (Expansion.calling call step) := by
  intro watch
  unfold Watched.calling Expansion.calling
  show forget (EStateM.bind (Watched.plain (Expansion.enter call)) _ watch) = _
  unfold EStateM.bind Watched.plain
  cases entered : Expansion.enter call watch.state with
  | error failure state => rfl
  | ok value state =>
      refine (lastly same.look_bind { watch with state }).trans ?_
      cases ended : step state <;> simp [ended]

theorem inScope {parent : Option ScopeId} {bindings : List (String × Term)}
    {watched : ScopeId → Watched Unit} {step : ScopeId → Expansion Unit}
    (same : ∀ scope, Shows (watched scope) (step scope)) :
    Shows (inScope parent bindings watched)
      (Expansion.releasing do
        let scope ← Expansion.pushScope parent
        Expansion.bindNames scope bindings
        step scope) := by
  intro watch
  apply lastly
  apply (plain _).bind
  intro scope
  apply (plain _).bind
  intro _
  exact same scope

theorem bodyTerm (scope : ScopeId) (placeholders : Placeholders) (term : Term) :
    Shows (bodyTerm scope placeholders term)
      (Expansion.bodyTerm scope placeholders term) := by
  have looked : Shows (Watched.bodyTerm scope placeholders term) (do
      let (value, placeholders) ← Expansion.bodyTerm scope placeholders term
      Pure.pure (value, placeholders)) := by
    apply (plain _).bind
    rintro ⟨value, placeholders⟩
    exact (pure _).look_bind
  rwa [bind_pure] at looked

section Body

variable {expandWatched : Instance → Watched Unit}
  {expand : Instance → Expansion Unit} {scope : ScopeId}

mutual

theorem argumentValue
    (nested : ∀ inst, Shows (expandWatched inst) (expand inst))
    (placeholders : Placeholders) :
    ∀ argument, Shows (argumentValue expandWatched scope placeholders argument)
      (Expansion.argumentValue expand scope placeholders argument)
  | .term term => by
      simp only [Watched.argumentValue, Expansion.argumentValue]
      exact bodyTerm scope placeholders term
  | .nested template arguments => by
      simp only [Watched.argumentValue, Expansion.argumentValue]
      apply (argumentValues nested placeholders arguments).bind
      rintro ⟨values, placeholders⟩
      apply (nested _).bind
      intro _
      exact pure _

theorem argumentValues
    (nested : ∀ inst, Shows (expandWatched inst) (expand inst))
    (placeholders : Placeholders) :
    ∀ arguments,
      Shows (argumentValues expandWatched scope placeholders arguments)
        (Expansion.argumentValues expand scope placeholders arguments)
  | [] => by
      simp only [Watched.argumentValues, Expansion.argumentValues]
      exact pure _
  | argument :: arguments => by
      simp only [Watched.argumentValues, Expansion.argumentValues]
      apply (argumentValue nested placeholders argument).bind
      rintro ⟨value, placeholders⟩
      apply (argumentValues nested placeholders arguments).bind
      rintro ⟨values, placeholders⟩
      exact pure _

end

variable (nested : ∀ inst, Shows (expandWatched inst) (expand inst))

include nested

theorem walkPattern (placeholders : Placeholders) (pattern : Pattern) :
    Shows (walkPattern expandWatched scope placeholders pattern)
      (Expansion.walkPattern expand scope placeholders pattern) := by
  cases pattern with
  | triple triple =>
      simp only [Watched.walkPattern, Expansion.walkPattern]
      apply (bodyTerm _ _ _).bind
      rintro ⟨subject, placeholders⟩
      apply (bodyTerm _ _ _).bind
      rintro ⟨predicate, placeholders⟩
      apply (bodyTerm _ _ _).bind
      rintro ⟨object, placeholders⟩
      apply look_bind
      apply (plain _).bind
      intro _
      exact pure placeholders
  | nested template arguments =>
      simp only [Watched.walkPattern, Expansion.walkPattern]
      apply (argumentValue nested placeholders _).bind
      rintro ⟨_, placeholders⟩
      exact pure placeholders

theorem walkBody (placeholders : Placeholders) (body : List Pattern) :
    Shows (walkBody expandWatched scope placeholders body)
      (Expansion.walkBody expand scope placeholders body) := by
  induction body generalizing placeholders with
  | nil => exact pure ()
  | cons pattern body induction =>
      simp only [Watched.walkBody, Expansion.walkBody]
      exact (walkPattern nested placeholders pattern).bind induction

theorem expandRow (template : Template) (defaults : ScopeId) (row : List Term) :
    Shows (expandRow expandWatched template defaults row)
      (Expansion.expandRow expand template defaults row) := by
  simp only [Watched.expandRow, Expansion.expandRow]
  cases Expansion.missingParameter? template.signature.parameters
      (Expansion.fillRow template.signature.parameters row) with
  | some parameter => exact plain _
  | none =>
      apply inScope
      intro scope
      exact (walkBody nested {} template.body).look_bind

theorem expandEachRow (template : Template) (defaults : ScopeId)
    (rows : List (List Term)) :
    Shows (expandEachRow expandWatched template defaults rows)
      (Expansion.expandEachRow expand template defaults rows) := by
  induction rows with
  | nil => exact pure ()
  | cons row rows induction =>
      exact (expandRow nested template defaults row).bind fun _ => induction

theorem expandCall (library : Library) (call : Instance) :
    Shows (expandCall library expandWatched call)
      (Expansion.expandCall library expand call) := by
  apply (plain _).bind
  intro template
  apply (plain _).bind
  rintro (_ | values)
  · exact plain _
  · apply (plain _).bind
    intro present
    apply (plain _).bind
    intro _
    apply (plain _).bind
    intro rows
    apply (plain _).bind
    intro _
    apply inScope
    intro defaults
    exact (expandEachRow nested template defaults rows).look_bind

end Body

theorem expandWithin (library : Library) (room : Nat) (inst : Instance) :
    Shows (expandWithin library room inst)
      (Expansion.expandWithin library room inst) := by
  induction room generalizing inst with
  | zero =>
      unfold Watched.expandWithin Expansion.expandWithin
      split
      · exact (plain _).look_bind
      · have entered : Shows (do
            Watched.plain (Expansion.enter inst)
            look .entered) (do
            Expansion.enter inst
            Pure.pure ()) := (plain _).bind fun _ => (pure ()).look_bind
        rwa [bind_pure] at entered
  | succ room induction =>
      unfold Watched.expandWithin Expansion.expandWithin
      split
      · exact (plain _).look_bind
      · exact (expandCall induction library inst).calling

theorem expandInstance (library : Library) (inst : Instance) :
    Shows (expandInstance library inst)
      (Expansion.expandInstance library inst) :=
  (plain _).bind fun present =>
    expandWithin library (present.maxDepth - present.depth) inst

theorem collecting {watched : Watched Unit} {step : Expansion Unit}
    (same : Shows watched step) :
    Shows (collecting watched) (Expansion.collecting step) := by
  intro watch
  have inner := same { watch with state := { watch.state with output := #[] } }
  simp only at inner
  simp only [Watched.collecting, Expansion.collecting]
  rw [← inner]
  cases watched { watch with state := { watch.state with output := #[] } } <;>
    rfl

/-- Watching does not change what becomes of a root. -/
theorem expandRoot (library : Library) (root : Instance) :
    Shows (expandRoot library root) (Expansion.expandRoot library root) := by
  apply (plain _).bind
  intro name
  cases Term.firstVariableIn? root.arguments with
  | some variableName => exact plain _
  | none => exact (expandInstance library _).collecting

end Shows

end Watched

/-- What is seen in the course of the expansion of a root, the newest sight
first. -/
def Expansion.sights (library : Library) (context : Context) (root : Instance) :
    List Sight :=
  match Watched.expandRoot library root { state := { context } } with
  | .ok _ watch => watch.sights
  | .error _ watch => watch.sights

end RdfTemplates
