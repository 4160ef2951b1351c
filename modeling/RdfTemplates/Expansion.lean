import RdfTemplates.Context
import RdfTemplates.Event

/-!
# Expansion steps

An expansion step changes the state of an expansion and either has a result or
fails.  A failing step keeps its state: the labels it has used stay used, and
the triples it has emitted stay in the output.
-/

namespace RdfTemplates

/-- A context with what has come out so far. -/
structure ExpansionState where
  context : Context
  /-- The emitted triples, in order. -/
  output : Array Triple := #[]
  /-- What has happened, in order. -/
  events : Array Event := #[]

abbrev Expansion (α : Type) := EStateM Failure ExpansionState α

namespace Expansion

/-- Fails in the present context. -/
def fail {α : Type} (fault : Fault) : Expansion α := fun state =>
  .error (state.context.fail fault) state

/-- The result of a check, or failure with its fault in the present context. -/
def check {α : Type} : Except Fault α → Expansion α
  | .ok value => pure value
  | .error fault => fail fault

def context : Expansion Context := fun state =>
  .ok state.context state

def record (event : Event) : Expansion Unit := fun state =>
  .ok () { state with events := state.events.push event }

/-- Appends a triple to the output. -/
def emit (triple : Triple) : Expansion Unit := fun state =>
  .ok ()
    { state with
      output := state.output.push triple
      events := state.events.push (.tripleEmitted triple) }

/-- A fresh blank node. -/
def freshBlank : Expansion Term := fun state =>
  let (label, labels) := state.context.labels.fresh
  .ok (.blank label) { state with context := { state.context with labels } }

/-- A given number of fresh blank nodes, in order of allocation. -/
def freshBlanks : Nat → Expansion (List Term)
  | 0 => pure []
  | count + 1 => do
      let node ← freshBlank
      let nodes ← freshBlanks count
      pure (node :: nodes)

/-- Makes a call active, or fails if it is refused. -/
def enter (call : Instance) : Expansion Unit := fun state =>
  match state.context.enter call with
  | .ok context => .ok () { state with context }
  | .error failure => .error failure state

/-- Runs a step with a call active; the call ends whether the step fails or
not. -/
def calling (call : Instance) (step : Expansion Unit) : Expansion Unit :=
  fun state =>
  match enter call state with
  | .error failure state => .error failure state
  | .ok () state =>
      match step state with
      | .ok () state => .ok () { state with context := state.context.leave }
      | .error failure state =>
          .error failure { state with context := state.context.leave }

/-- Drops every scope but the `mark` oldest ones. -/
def releaseScopes (mark : Nat) (state : ExpansionState) : ExpansionState :=
  { state with
    context :=
      { state.context with scopes := state.context.scopes.release mark } }

/-- Runs a step and drops the scopes it has created, whether it fails or not. -/
def releasing {α : Type} (step : Expansion α) : Expansion α := fun state =>
  let mark := state.context.scopes.size
  match step state with
  | .ok value state => .ok value (releaseScopes mark state)
  | .error failure state => .error failure (releaseScopes mark state)

/-- Creates an empty scope. -/
def pushScope (parent : Option ScopeId) : Expansion ScopeId := fun state =>
  let (id, scopes) := state.context.scopes.push parent
  .ok id { state with context := { state.context with scopes } }

/-- Binds a name in a scope. -/
def bindName (id : ScopeId) (name : String) (value : Term) : Expansion Unit :=
  fun state =>
  match state.context.scopes.bind id name value with
  | .ok scopes => .ok () { state with context := { state.context with scopes } }
  | .error fault => .error (state.context.fail fault) state

/-- Binds names in a scope, one after the other. -/
def bindNames (id : ScopeId) : List (String × Term) → Expansion Unit
  | [] => pure ()
  | (name, value) :: bindings => do
      bindName id name value
      bindNames id bindings

/-- The meaning of a body term in a scope: its placeholders are localized first,
then its variables are replaced. -/
def bodyTerm (id : ScopeId) (placeholders : Placeholders) (term : Term) :
    Expansion (Term × Placeholders) := fun state =>
  let (term, placeholders, labels) :=
    placeholders.localize state.context.labels term
  let state := { state with context := { state.context with labels } }
  match state.context.scopes.resolve id term with
  | .ok value => .ok (value, placeholders) state
  | .error fault => .error (state.context.fail fault) state

/-- Runs a step on an empty output.  Its triples are the result if it succeeds
and are lost if it fails; the output itself stays as it was. -/
def collecting (step : Expansion Unit) : Expansion (List Triple) := fun state =>
  match step { state with output := #[] } with
  | .ok () after =>
      .ok after.output.toList { after with output := state.output }
  | .error failure after => .error failure { after with output := state.output }

end Expansion

end RdfTemplates
