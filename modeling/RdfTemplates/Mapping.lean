import RdfTemplates.Expansion.Engine

/-!
# Mappings

Many root instances are expanded in one context, so that the blank nodes of
different roots are distinct.  A root that fails contributes no triples, and the
roots after it are still expanded.
-/

namespace RdfTemplates

/-- A destination of triples. -/
class TripleSink (σ : Type) where
  insert : σ → Triple → σ
  /-- Inserts the triples of one root. -/
  insertAll : σ → List Triple → σ :=
    fun sink triples => triples.foldl insert sink

instance : TripleSink (Array Triple) where
  insert := Array.push
  insertAll := fun sink triples => sink ++ triples

/-- A root that could not be expanded: its position, its template name as given,
and why. -/
structure RootFailure where
  index : Nat
  template : String
  failure : Failure
  deriving DecidableEq

def RootFailure.message (rootFailure : RootFailure) : String :=
  "root #" ++ toString rootFailure.index ++ " (" ++ rootFailure.template ++
    "): " ++ rootFailure.failure.message

/-- The outcome of a run in which roots may fail. -/
structure MappingReport where
  triples : List Triple
  failures : List RootFailure
  roots : Nat
  deriving DecidableEq

def MappingReport.isSuccess (report : MappingReport) : Bool :=
  report.failures.isEmpty

/-- Why a run in which no root may fail has no triples. -/
structure MappingError where
  roots : Nat
  failures : List RootFailure
  deriving DecidableEq

def MappingError.message (error : MappingError) : String :=
  toString error.failures.length ++ " of " ++ toString error.roots ++
    " root instance(s) failed to expand" ++ String.join
      (error.failures.map fun rootFailure => "\n" ++ rootFailure.message)

/-- What roots are expanded with.  The random bits are used for an unset
stem. -/
structure Mapping where
  library : Library
  options : Options := {}
  random : Nat := 0

/-- A run after some of its roots. -/
structure MappingProgress (σ : Type) where
  state : ExpansionState
  sink : σ
  /-- The number of roots so far. -/
  roots : Nat := 0
  /-- The number of triples of the roots that succeeded. -/
  emitted : Nat := 0
  failures : Array RootFailure := #[]

namespace MappingProgress

/-- Expands the next root. -/
def step {σ : Type} [TripleSink σ] (library : Library)
    (progress : MappingProgress σ) (root : Instance) : MappingProgress σ :=
  match Expansion.expandRoot library root progress.state with
  | .ok triples state =>
      { progress with
        state
        sink := TripleSink.insertAll progress.sink triples
        roots := progress.roots + 1
        emitted := progress.emitted + triples.length }
  | .error failure state =>
      let index := progress.roots
      let event := Event.rootFailed index root.template failure.fault
      { progress with
        state :=
          { state with
            context := state.context.reset, events := state.events.push event }
        roots := progress.roots + 1
        failures :=
          progress.failures.push { index, template := root.template, failure } }

end MappingProgress

/-- A finished run into a sink. -/
structure MappingRun (σ : Type) where
  sink : σ
  failures : List RootFailure
  events : List Event

namespace Mapping

/-- The run before its first root. -/
def start {σ : Type} (mapping : Mapping) (sink : σ) : MappingProgress σ :=
  { state := { context := .ofOptions mapping.options mapping.random }, sink }

/-- Expands every root on its own into a sink. -/
def expandInto {σ : Type} [TripleSink σ] (mapping : Mapping)
    (roots : List Instance) (sink : σ) : MappingRun σ :=
  let progress :=
    roots.foldl (MappingProgress.step mapping.library) (mapping.start sink)
  let summary :=
    Event.mappingExpanded progress.roots progress.emitted progress.failures.size
  { sink := progress.sink
    failures := progress.failures.toList
    events := (progress.state.events.push summary).toList }

/-- Expands every root on its own. -/
def expand (mapping : Mapping) (roots : List Instance) : MappingReport :=
  let run := mapping.expandInto roots (#[] : Array Triple)
  { triples := run.sink.toList, failures := run.failures,
    roots := roots.length }

/-- Expands every root or none.  All roots are tried, so that the error lists
every failure. -/
def expandAllOrNothing (mapping : Mapping) (roots : List Instance) :
    Except MappingError (List Triple) :=
  let report := mapping.expand roots
  if report.isSuccess then .ok report.triples
  else .error { roots := report.roots, failures := report.failures }

end Mapping

end RdfTemplates
