import RdfTemplates.Fault
import RdfTemplates.Term.Substitution

/-!
# Scopes

Variable scopes live in an arena and name their parent by its position, counted
from the oldest scope.  They are created and released in stack order, so the
arena is a list with the newest scope first and a lookup only ever moves to
older ones.
-/

namespace RdfTemplates

/-- The position of a scope in its arena; the oldest scope has position 0. -/
abbrev ScopeId := Nat

structure Scope where
  bindings : List (String × Term) := []
  /-- The scope that is asked for names not bound here. -/
  parent : Option ScopeId := none
  deriving DecidableEq

structure ScopeArena where
  /-- The live scopes, newest first. -/
  scopes : List Scope := []
  deriving DecidableEq

namespace ScopeArena

/-- The number of live scopes. -/
def size (arena : ScopeArena) : Nat :=
  arena.scopes.length

def isLive (arena : ScopeArena) (scope : ScopeId) : Bool :=
  scope < arena.size

/-- Creates an empty scope. -/
def push (arena : ScopeArena) (parent : Option ScopeId) :
    ScopeId × ScopeArena :=
  (arena.size, { scopes := { parent } :: arena.scopes })

/-- Adds a binding to a live scope; a name is bound once in a scope. -/
def bindIn (id : ScopeId) (name : String) (value : Term) :
    List Scope → Except Fault (List Scope)
  | [] => .error (.deadScope id)
  | scope :: older =>
      if id = older.length then
        if (scope.bindings.lookup name).isSome then
          .error (.duplicateBinding name)
        else .ok
          ({ scope with bindings := (name, value) :: scope.bindings } :: older)
      else
        match bindIn id name value older with
        | .ok older => .ok (scope :: older)
        | .error fault => .error fault

def bind (arena : ScopeArena) (id : ScopeId) (name : String) (value : Term) :
    Except Fault ScopeArena :=
  match bindIn id name value arena.scopes with
  | .ok scopes => .ok { scopes }
  | .error fault => .error fault

/-- The value of a name in a scope or the nearest of its ancestors. -/
def lookupIn (name : String) : List Scope → ScopeId → Option Term
  | [], _ => none
  | scope :: older, id =>
      if id = older.length then
        match scope.bindings.lookup name with
        | some value => some value
        | none =>
            match scope.parent with
            | some parent => lookupIn name older parent
            | none => none
      else lookupIn name older id

def lookup (arena : ScopeArena) (id : ScopeId) (name : String) : Option Term :=
  lookupIn name arena.scopes id

/-- The term with every variable replaced by its value in a live scope. -/
def resolve (arena : ScopeArena) (id : ScopeId) (term : Term) :
    Except Fault Term :=
  if arena.isLive id then
    match term.substitute (arena.lookup id) with
    | .ok value => .ok value
    | .error name => .error (.unboundVariable name)
  else .error (.deadScope id)

/-- Drops every scope but the `mark` oldest ones. -/
def release (arena : ScopeArena) (mark : Nat) : ScopeArena :=
  { scopes := arena.scopes.drop (arena.size - mark) }

end ScopeArena

end RdfTemplates
