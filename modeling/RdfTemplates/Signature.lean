import RdfTemplates.Fault
import RdfTemplates.ParameterType

/-!
# Signatures

A signature is a template name with an ordered list of parameters.  It decides
how many arguments an instance may have: at least as many as the position of the
last required parameter, and at most as many as there are parameters unless the
last one collects the rest.
-/

namespace RdfTemplates

/-- How the items of a list argument are spread over repetitions. -/
inductive Modifier where
  /-- Every item with every choice of the other crossed lists. -/
  | cross
  /-- Pairing by position, lists of one length only. -/
  | zip
  /-- Pairing by position up to the shortest list. -/
  | zipMin
  /-- Pairing by position up to the longest list, with absent values at the end
  of shorter ones. -/
  | zipMax
  deriving DecidableEq, Inhabited

def Modifier.isZip : Modifier → Bool
  | .zip | .zipMin | .zipMax => true
  | .cross => false

structure Parameter where
  name : String
  type : Option ParameterType := none
  default : Option Term := none
  modifier : Option Modifier := none
  /-- Whether it may be absent without the instance being skipped. -/
  optional : Bool := false
  /-- Whether blank nodes are refused. -/
  nonBlank : Bool := false
  /-- Whether it collects all remaining arguments; only the last parameter
  can. -/
  variadic : Bool := false
  deriving DecidableEq, Inhabited

/-- Whether the parameter has to be given an argument. -/
def Parameter.isRequired (parameter : Parameter) : Bool :=
  parameter.default.isNone && !parameter.optional && !parameter.variadic

structure Signature where
  name : String
  parameters : List Parameter := []
  deriving DecidableEq, Inhabited

namespace Signature

/-- The signature with one more parameter at the end. -/
def addParameter (signature : Signature) (parameter : Parameter) : Signature :=
  { signature with parameters := signature.parameters ++ [parameter] }

def parameter? (signature : Signature) (name : String) : Option Parameter :=
  signature.parameters.find? (·.name == name)

def declares (signature : Signature) (name : String) : Bool :=
  signature.parameters.any (·.name == name)

/-- Whether the last parameter collects all remaining arguments. -/
def isVariadic (signature : Signature) : Bool :=
  match signature.parameters.getLast? with
  | some parameter => parameter.variadic
  | none => false

/-- The first of the names that was seen before. -/
def firstRepeated? (seen : List String) : List String → Option String
  | [] => none
  | name :: names =>
      if name ∈ seen then some name else firstRepeated? (name :: seen) names

/-- The first parameter name that repeats an earlier one. -/
def duplicateParameter? (signature : Signature) : Option String :=
  firstRepeated? [] (signature.parameters.map (·.name))

/-- Whether an instance may have this many arguments. -/
def checkArity (signature : Signature) (count : Nat) : Except Fault Unit :=
  let mismatch :=
    Fault.arityMismatch signature.name signature.parameters.length count
  match (signature.parameters.drop count).find? (·.isRequired) with
  | some missing =>
      .error (mismatch ("parameter ?" ++ missing.name ++ " has no default"))
  | none =>
      if signature.parameters.length < count && !signature.isVariadic then
        .error (mismatch "too many arguments")
      else .ok ()

end Signature

end RdfTemplates
