import RdfTemplates.Fault
import RdfTemplates.Triple

/-!
# Events

What happens in the course of definitions and expansions, for a log.
-/

namespace RdfTemplates

inductive Level where
  | trace
  | debug
  | info
  | warn
  deriving DecidableEq

def Level.text : Level → String
  | .trace => "TRACE"
  | .debug => "DEBUG"
  | .info => "INFO"
  | .warn => "WARN"

inductive Event where
  | templateDefined (template : String)
  /-- The rows of an instance are known and their bodies come next. -/
  | instanceExpanding (template : String) (repetitions depth : Nat)
  /-- A mandatory argument of an instance is absent. -/
  | instanceSkipped (template : String)
  /-- A mandatory value of a row is absent. -/
  | repetitionSkipped (template parameter : String)
  /-- A position of a triple is absent. -/
  | tripleDropped
  | tripleEmitted (triple : Triple)
  | rootFailed (root : Nat) (template : String) (fault : Fault)
  | mappingExpanded (roots triples failures : Nat)
  deriving DecidableEq

namespace Event

def level : Event → Level
  | .templateDefined .. | .tripleDropped | .tripleEmitted .. => .trace
  | .instanceExpanding .. | .instanceSkipped .. | .repetitionSkipped .. =>
      .debug
  | .mappingExpanded .. => .info
  | .rootFailed .. => .warn

def message : Event → String
  | .templateDefined .. => "Defining template"
  | .instanceExpanding .. => "Expanding template instance"
  | .instanceSkipped .. => "Skipping instance with ottr:none argument"
  | .repetitionSkipped .. => "Skipping repetition with ottr:none argument"
  | .tripleDropped => "Dropping triple with ottr:none"
  | .tripleEmitted .. => "Emitting triple"
  | .rootFailed _ _ fault => "Root instance failed to expand: " ++ fault.message
  | .mappingExpanded .. => "Mapping expanded"

/-- The content of a field of an event. -/
inductive Field where
  | text (text : String)
  | count (count : Nat)

/-- The named details of an event. -/
def fields : Event → List (String × Field)
  | .templateDefined template => [("template", .text template)]
  | .instanceExpanding template repetitions depth =>
      [("template", .text template), ("repetitions", .count repetitions),
        ("depth", .count depth)]
  | .instanceSkipped template => [("template", .text template)]
  | .repetitionSkipped template parameter =>
      [("template", .text template), ("parameter", .text parameter)]
  | .tripleDropped => []
  | .tripleEmitted triple => [("triple", .text triple.text)]
  | .rootFailed root template fault =>
      [("root", .count root), ("template", .text template),
        ("code", .text fault.code)]
  | .mappingExpanded roots triples failures =>
      [("roots", .count roots), ("triples", .count triples),
        ("failures", .count failures)]

end Event

end RdfTemplates
