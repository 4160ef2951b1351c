import RdfTemplates.Instance

/-!
# Faults and failures

A fault says what is wrong with a definition, an instance or a triple.  A
failure is a fault together with the calls that were active when it arose.
-/

namespace RdfTemplates

inductive Fault where
  /-- An instance names a template that is not defined. -/
  | unknownTemplate (name : String)
  /-- A template of this name is defined already. -/
  | duplicateTemplate (name : String)
  /-- The number of arguments does not fit the signature. -/
  | arityMismatch (template : String) (parameters arguments : Nat)
      (reason : String)
  /-- An argument is not of the declared type. -/
  | typeMismatch (template parameter expected : String) (actual : Term)
  /-- Lists to be paired strictly have different lengths. -/
  | listLengthMismatch (template : String) (lengths : List (String × Nat))
  /-- A variable has no binding. -/
  | unboundVariable (name : String)
  /-- A name is bound twice in one scope, or declared twice in one signature. -/
  | duplicateBinding (name : String)
  /-- A scope is used that is not live; an expansion never does this. -/
  | deadScope (scope : Nat)
  /-- An instance occurs again inside its own expansion. -/
  | cyclicExpansion (inst : Instance)
  /-- More calls would be active than allowed. -/
  | depthExceeded (limit : Nat)
  /-- A blank node is given for a parameter that refuses them. -/
  | blankNodeNotAllowed (template parameter : String) (value : Term)
  /-- A term cannot stand in its position of a triple. -/
  | invalidTriple (position : String) (term : Term) (reason : String)
  deriving DecidableEq

namespace Fault

/-- The stable code of each kind of fault. -/
def code : Fault → String
  | .unknownTemplate .. => "OX-1001"
  | .duplicateTemplate .. => "OX-1002"
  | .arityMismatch .. => "OX-2001"
  | .typeMismatch .. => "OX-2002"
  | .blankNodeNotAllowed .. => "OX-2003"
  | .listLengthMismatch .. => "OX-2004"
  | .unboundVariable .. => "OX-3001"
  | .duplicateBinding .. => "OX-3002"
  | .deadScope .. => "OX-3003"
  | .cyclicExpansion .. => "OX-4001"
  | .depthExceeded .. => "OX-4002"
  | .invalidTriple .. => "OX-5001"

private def lengthText (length : String × Nat) : String :=
  "?" ++ length.1 ++ " has " ++ toString length.2

def message : Fault → String
  | .unknownTemplate name => "Unknown template: " ++ name
  | .duplicateTemplate name => "Template already defined: " ++ name
  | .arityMismatch template parameters arguments reason =>
      "Template " ++ template ++ " declares " ++ toString parameters ++
        " parameter(s) but was given " ++ toString arguments ++
        " argument(s): " ++ reason
  | .typeMismatch template parameter expected actual =>
      "Argument " ++ actual.text ++ " for parameter ?" ++ parameter ++ " of " ++
        template ++ " is not of type " ++ expected
  | .listLengthMismatch template lengths =>
      "Zip-expanded lists of " ++ template ++ " have different lengths: " ++
        String.intercalate ", " (lengths.map lengthText)
  | .unboundVariable name => "Unbound variable: ?" ++ name
  | .duplicateBinding name => "Variable ?" ++ name ++ " is bound more than once"
  | .deadScope scope => "Scope " ++ toString scope ++ " is not live"
  | .cyclicExpansion inst =>
      "Cyclic expansion: " ++ inst.text ++ " is already being expanded"
  | .depthExceeded limit =>
      "Expansion depth exceeded (limit " ++ toString limit ++ ")"
  | .blankNodeNotAllowed template parameter value =>
      "Parameter ?" ++ parameter ++ " of " ++ template ++
        " does not accept blank nodes, got " ++ value.text
  | .invalidTriple position term reason =>
      "Invalid " ++ position ++ " in triple: " ++ term.text ++ " (" ++
        reason ++ ")"

/-- The message after its code in brackets. -/
def codedMessage (fault : Fault) : String :=
  "[" ++ fault.code ++ "] " ++ fault.message

/-- The built-in triple template has exactly three parameters. -/
def tripleArity (arguments : Nat) : Fault :=
  .arityMismatch Vocabulary.ottrTriple 3 arguments
    "ottr:Triple takes subject, predicate and object"

end Fault

/-- A fault with the calls that were active, innermost first. -/
structure Failure where
  fault : Fault
  calls : List Instance := []
  deriving DecidableEq

namespace Failure

def message (failure : Failure) : String :=
  failure.fault.codedMessage ++ callsText failure.calls

/-- Adds the active calls unless calls were recorded closer to the fault. -/
def inside (failure : Failure) (calls : List Instance) : Failure :=
  if failure.calls.isEmpty then { failure with calls } else failure

end Failure

end RdfTemplates
