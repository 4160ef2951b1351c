import RdfTemplates.Expansion.Engine

/-!
# Properties of every step

A property of steps that holds of what an expansion is made of, and is kept when
steps follow each other or stand in a scope, passes from the instances nested in
a call to the call.  If it also passes from a call to the instance that makes
it, it holds of the expansion of every instance.
-/

namespace RdfTemplates.Expansion

/-- The state in which a step ends, whether it fails or not. -/
def final {α : Type} : EStateM.Result Failure ExpansionState α → ExpansionState
  | .ok _ state => state
  | .error _ state => state

/-- A property of steps that is kept when they follow each other. -/
structure Sequential (holds : {α : Type} → Expansion α → Prop) : Prop where
  pure : ∀ {α : Type} (value : α), holds (Pure.pure value : Expansion α)
  bind : ∀ {α β : Type} {step : Expansion α} {rest : α → Expansion β},
    holds step → (∀ value, holds (rest value)) → holds (step >>= rest)

/-- A property of steps that passes from what a triple is written with to the
triple. -/
structure Emissive (holds : {α : Type} → Expansion α → Prop) : Prop
    extends Sequential holds where
  refuse : ∀ {α : Type} position term reason,
    holds (Expansion.fail (.invalidTriple position term reason) : Expansion α)
  drop : holds (record .tripleDropped)
  emit : ∀ triple, holds (emit triple)
  freshBlank : holds freshBlank

/-- A property of steps that passes from the terms of a body, with their
variables replaced in one scope, to the whole body. -/
structure Walking (holds : {α : Type} → Expansion α → Prop) (scope : ScopeId) :
    Prop extends Sequential holds where
  bodyTerm : ∀ placeholders term, holds (bodyTerm scope placeholders term)
  writeTriple : ∀ subject predicate object,
    holds (writeTriple subject predicate object)

/-- A property of steps that passes from the creation and the release of scopes,
and from what is done in them, to the whole. -/
structure Scoping (holds : {α : Type} → Expansion α → Prop) : Prop
    extends Sequential holds where
  pushScope : ∀ parent, holds (pushScope parent)
  bindName : ∀ scope name value, holds (bindName scope name value)
  releasing : ∀ {α : Type} {step : Expansion α}, holds step →
    holds (releasing step)

/-- A property of steps that passes from the parts of a call to the whole. -/
structure Compositional (holds : {α : Type} → Expansion α → Prop) : Prop where
  pure : ∀ {α : Type} (value : α), holds (Pure.pure value : Expansion α)
  bind : ∀ {α β : Type} {step : Expansion α} {rest : α → Expansion β},
    holds step → (∀ value, holds (rest value)) → holds (step >>= rest)
  fail : ∀ {α : Type} (fault : Fault), holds (fail fault : Expansion α)
  context : holds context
  record : ∀ event, holds (record event)
  bodyTerm : ∀ scope placeholders term, holds (bodyTerm scope placeholders term)
  writeTriple : ∀ subject predicate object,
    holds (writeTriple subject predicate object)
  /-- A step in a new scope that is dropped at the end. -/
  inScope : ∀ parent bindings {step : ScopeId → Expansion Unit},
    (∀ scope, holds (step scope)) →
    holds (releasing do
      let scope ← pushScope parent
      bindNames scope bindings
      step scope)

/-- A property of steps that passes from the parts of an expansion to the
whole. -/
structure Pervasive (holds : {α : Type} → Expansion α → Prop) : Prop
    extends Compositional holds where
  enter : ∀ call, holds (Expansion.enter call)
  calling : ∀ call {step : Expansion Unit}, holds step →
    holds (Expansion.calling call step)

namespace Emissive

variable {holds : {α : Type} → Expansion α → Prop} (emissive : Emissive holds)

include emissive

theorem freshBlanks (count : Nat) : holds (Expansion.freshBlanks count) := by
  induction count with
  | zero => exact emissive.pure []
  | succ count induction =>
      apply emissive.bind emissive.freshBlank
      intro node
      apply emissive.bind induction
      intro nodes
      exact emissive.pure (node :: nodes)

mutual

theorem itemValue : ∀ item, holds (Expansion.itemValue item)
  | .list items => by
      simp only [Expansion.itemValue]
      apply emissive.bind (freshBlanks emissive items.length)
      intro cells
      apply emissive.bind (writeCells items cells)
      intro _
      exact emissive.pure (listNode cells)
  | .none => emissive.refuse _ _ _
  | .var _ => emissive.refuse _ _ _
  | .iri _ => emissive.pure _
  | .literal _ => emissive.pure _
  | .blank _ => emissive.pure _

theorem writeCells : ∀ items cells, holds (Expansion.writeCells items cells)
  | [], _ => by
      simp only [Expansion.writeCells]
      exact emissive.pure ()
  | _ :: _, [] => by
      simp only [Expansion.writeCells]
      exact emissive.pure ()
  | item :: items, cell :: cells => by
      simp only [Expansion.writeCells]
      apply emissive.bind (itemValue item)
      intro value
      apply emissive.bind (emissive.emit _)
      intro _
      apply emissive.bind (emissive.emit _)
      intro _
      exact writeCells items cells

end

theorem objectValue (object : Term) : holds (Expansion.objectValue object) := by
  cases object with
  | list items => exact emissive.itemValue (.list items)
  | var name => exact emissive.refuse _ _ _
  | iri name => exact emissive.pure _
  | literal value => exact emissive.pure _
  | blank label => exact emissive.pure _
  | none => exact emissive.pure _

theorem checkPosition (position : String) (term : Term)
    (objection : Option String) :
    holds (Expansion.checkPosition position term objection) := by
  cases objection with
  | none => exact emissive.pure ()
  | some reason => exact emissive.refuse _ _ _

theorem writeTriple (subject predicate object : Term) :
    holds (Expansion.writeTriple subject predicate object) := by
  simp only [Expansion.writeTriple]
  split
  · exact emissive.drop
  · apply emissive.bind (emissive.checkPosition "subject" subject _)
    intro _
    apply emissive.bind (emissive.checkPosition "predicate" predicate _)
    intro _
    apply emissive.bind (emissive.objectValue object)
    intro value
    exact emissive.emit ⟨subject, predicate, value⟩

end Emissive

namespace Walking

variable {holds : {α : Type} → Expansion α → Prop} {scope : ScopeId}
  (walking : Walking holds scope) {expand : Instance → Expansion Unit}

include walking

mutual

theorem argumentValue (nested : ∀ inst, holds (expand inst))
    (placeholders : Placeholders) : ∀ argument,
      holds (Expansion.argumentValue expand scope placeholders argument)
  | .term term => by
      simp only [Expansion.argumentValue]
      exact walking.bodyTerm placeholders term
  | .nested template arguments => by
      simp only [Expansion.argumentValue]
      apply walking.bind (argumentValues nested placeholders arguments)
      rintro ⟨values, placeholders⟩
      apply walking.bind (nested _)
      intro _
      exact walking.pure _

theorem argumentValues (nested : ∀ inst, holds (expand inst))
    (placeholders : Placeholders) :
    ∀ arguments,
      holds (Expansion.argumentValues expand scope placeholders arguments)
  | [] => by
      simp only [Expansion.argumentValues]
      exact walking.pure _
  | argument :: arguments => by
      simp only [Expansion.argumentValues]
      apply walking.bind (argumentValue nested placeholders argument)
      rintro ⟨value, placeholders⟩
      apply walking.bind (argumentValues nested placeholders arguments)
      rintro ⟨values, placeholders⟩
      exact walking.pure _

end

variable (nested : ∀ inst, holds (expand inst))

include nested

theorem walkPattern (placeholders : Placeholders) (pattern : Pattern) :
    holds (Expansion.walkPattern expand scope placeholders pattern) := by
  cases pattern with
  | triple triple =>
      simp only [Expansion.walkPattern]
      apply walking.bind (walking.bodyTerm _ _)
      rintro ⟨subject, placeholders⟩
      apply walking.bind (walking.bodyTerm _ _)
      rintro ⟨predicate, placeholders⟩
      apply walking.bind (walking.bodyTerm _ _)
      rintro ⟨object, placeholders⟩
      apply walking.bind (walking.writeTriple _ _ _)
      intro _
      exact walking.pure placeholders
  | nested template arguments =>
      simp only [Expansion.walkPattern]
      apply walking.bind (walking.argumentValue nested placeholders _)
      rintro ⟨_, placeholders⟩
      exact walking.pure placeholders

theorem walkBody (placeholders : Placeholders) (body : List Pattern) :
    holds (Expansion.walkBody expand scope placeholders body) := by
  induction body generalizing placeholders with
  | nil => exact walking.pure ()
  | cons pattern body induction =>
      simp only [Expansion.walkBody]
      exact walking.bind (walking.walkPattern nested placeholders pattern)
        induction

end Walking

namespace Scoping

variable {holds : {α : Type} → Expansion α → Prop} (scoping : Scoping holds)

include scoping

theorem bindNames (scope : ScopeId) (bindings : List (String × Term)) :
    holds (Expansion.bindNames scope bindings) := by
  induction bindings with
  | nil => exact scoping.pure ()
  | cons binding bindings induction =>
      exact scoping.bind (scoping.bindName scope binding.1 binding.2)
        fun _ => induction

theorem inScope (parent : Option ScopeId) (bindings : List (String × Term))
    {step : ScopeId → Expansion Unit} (inside : ∀ scope, holds (step scope)) :
    holds (Expansion.releasing do
      let scope ← Expansion.pushScope parent
      Expansion.bindNames scope bindings
      step scope) := by
  apply scoping.releasing
  apply scoping.bind (scoping.pushScope parent)
  intro scope
  apply scoping.bind (scoping.bindNames scope bindings)
  intro _
  exact inside scope

end Scoping

namespace Compositional

variable {holds : {α : Type} → Expansion α → Prop}
  (compositional : Compositional holds)

include compositional

theorem walking (scope : ScopeId) : Walking holds scope where
  pure := compositional.pure
  bind := compositional.bind
  bodyTerm := compositional.bodyTerm scope
  writeTriple := compositional.writeTriple

theorem check {α : Type} (result : Except Fault α) :
    holds (Expansion.check result) := by
  cases result with
  | ok value => exact compositional.pure value
  | error fault => exact compositional.fail fault

theorem writeTripleInstance (arguments : List Term) :
    holds (Expansion.writeTripleInstance arguments) := by
  simp only [Expansion.writeTripleInstance]
  split
  · exact compositional.writeTriple _ _ _
  · exact compositional.fail _

section Rows

variable {expand : Instance → Expansion Unit}
  (nested : ∀ inst, holds (expand inst))

include nested

theorem expandRow (template : Template) (defaults : ScopeId) (row : List Term) :
    holds (Expansion.expandRow expand template defaults row) := by
  simp only [Expansion.expandRow]
  split
  · exact compositional.record _
  · apply compositional.inScope
    intro scope
    exact (compositional.walking scope).walkBody nested {} template.body

theorem expandEachRow (template : Template) (defaults : ScopeId)
    (rows : List (List Term)) :
    holds (Expansion.expandEachRow expand template defaults rows) := by
  induction rows with
  | nil => exact compositional.pure ()
  | cons row rows induction =>
      simp only [Expansion.expandEachRow]
      apply compositional.bind
        (compositional.expandRow nested template defaults row)
      intro _
      exact induction

theorem expandCall (library : Library) (call : Instance) :
    holds (Expansion.expandCall library expand call) := by
  simp only [Expansion.expandCall]
  apply compositional.bind (compositional.check _)
  intro template
  apply compositional.bind (compositional.check _)
  intro bound
  cases bound with
  | none => exact compositional.record _
  | some values =>
      apply compositional.bind compositional.context
      intro present
      apply compositional.bind (compositional.check _)
      intro _
      apply compositional.bind (compositional.check _)
      intro rows
      apply compositional.bind (compositional.record _)
      intro _
      apply compositional.inScope
      intro defaults
      exact compositional.expandEachRow nested template defaults rows

end Rows

end Compositional

namespace Pervasive

variable {holds : {α : Type} → Expansion α → Prop} (pervasive : Pervasive holds)

include pervasive

theorem expandWithin (library : Library) (room : Nat) (inst : Instance) :
    holds (Expansion.expandWithin library room inst) := by
  induction room generalizing inst with
  | zero =>
      rw [Expansion.expandWithin]
      split
      · exact pervasive.toCompositional.writeTripleInstance _
      · exact pervasive.enter inst
  | succ room induction =>
      rw [Expansion.expandWithin]
      split
      · exact pervasive.toCompositional.writeTripleInstance _
      · exact pervasive.calling inst
          (pervasive.toCompositional.expandCall induction library inst)

theorem expandInstance (library : Library) (inst : Instance) :
    holds (Expansion.expandInstance library inst) := by
  apply pervasive.bind pervasive.context
  intro present
  exact pervasive.expandWithin library _ inst

end Pervasive

end RdfTemplates.Expansion
