import RdfTemplates.Options
import RdfTemplates.ScopeArena

/-!
# Expansion contexts

The state of one expansion request: the source of fresh labels, the live scopes,
and the calls that are active.  A call is refused if it is active already or if
as many calls are active as the limit allows.
-/

namespace RdfTemplates

structure Context where
  labels : LabelSource
  scopes : ScopeArena := {}
  /-- The active calls, innermost first. -/
  calls : List Instance := []
  maxDepth : Nat := defaultMaxDepth
  checkTypes : Bool := true
  /-- Whether a call that is active already is refused.  Without this only the
  depth limit ends a circular expansion. -/
  refusesRepeats : Bool := true
  deriving DecidableEq

namespace Context

/-- A fresh context, given random bits for an unset stem. -/
def ofOptions (options : Options) (random : Nat) : Context :=
  { labels := options.labels random
    maxDepth := options.maxDepth
    checkTypes := options.checkTypes }

/-- The number of active calls. -/
def depth (context : Context) : Nat :=
  context.calls.length

/-- A fault that arises now. -/
def fail (context : Context) (fault : Fault) : Failure :=
  { fault, calls := context.calls }

/-- A failure that is passed on now; calls recorded closer to the fault are
kept. -/
def traced (context : Context) (failure : Failure) : Failure :=
  failure.inside context.calls

/-- Makes a call active. -/
def enter (context : Context) (call : Instance) : Except Failure Context :=
  if context.refusesRepeats && context.calls.contains call then
    .error (context.fail (.cyclicExpansion call))
  else if context.maxDepth ≤ context.depth then
    .error (context.fail (.depthExceeded context.maxDepth))
  else .ok { context with calls := call :: context.calls }

/-- Ends the innermost call. -/
def leave (context : Context) : Context :=
  { context with calls := context.calls.tail }

/-- Ends all calls and drops all scopes.  The labels go on, so that what is
expanded later gets other nodes. -/
def reset (context : Context) : Context :=
  { context with calls := [], scopes := {} }

end Context

end RdfTemplates
