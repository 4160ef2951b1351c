import RdfTemplates.Library

/-!
# Validation

Every definition of a library is checked without expanding anything: variables
that are not parameters of their template, nested instances of templates that do
not exist, and numbers of arguments that no instance may have.  All problems are
listed, in the order of the definitions and within one in reading order.
-/

namespace RdfTemplates

/-- A fault in a definition, with the name of the template defined. -/
structure Problem where
  template : String
  fault : Fault
  deriving DecidableEq

def Problem.message (problem : Problem) : String :=
  problem.template ++ ": " ++ problem.fault.codedMessage

def problemsMessage (problems : List Problem) : String :=
  "Template library has " ++ toString problems.length ++ " problem(s)" ++
    String.join (problems.map fun problem => "\n" ++ problem.message)

namespace Signature

/-- The variables of a term that are not parameters. -/
def undeclared (signature : Signature) (term : Term) : List Fault :=
  (term.variableNames.filter (!signature.declares ·)).map .unboundVariable

end Signature

namespace Library

/-- Whether an instance of the named template may have this many arguments. -/
def checkCall (library : Library) (name : String) (count : Nat) :
    Except Fault Unit :=
  if name == Vocabulary.ottrTriple then
    if count == 3 then .ok () else .error (.tripleArity count)
  else
    match library.find? name with
    | some template => template.signature.checkArity count
    | none => .error (.unknownTemplate name)

def callFaults (library : Library) (name : String) (count : Nat) : List Fault :=
  match library.checkCall name count with
  | .ok () => []
  | .error fault => [fault]

mutual

/-- The faults of an argument in the body of a template.  Those of the arguments
of an instance come before its own. -/
def argumentFaults (library : Library) (owner : Signature) :
    Argument → List Fault
  | .term term => owner.undeclared term
  | .nested name arguments =>
      library.argumentsFaults owner arguments ++
        library.callFaults name arguments.length

def argumentsFaults (library : Library) (owner : Signature) :
    List Argument → List Fault
  | [] => []
  | argument :: arguments =>
      library.argumentFaults owner argument ++
        library.argumentsFaults owner arguments

end

def patternFaults (library : Library) (owner : Signature) : Pattern → List Fault
  | .triple triple => triple.terms.flatMap owner.undeclared
  | .nested name arguments =>
      library.argumentFaults owner (.nested name arguments)

def templateFaults (library : Library) (template : Template) : List Fault :=
  (template.signature.duplicateParameter?.map Fault.duplicateBinding).toList ++
    template.body.flatMap (library.patternFaults template.signature)

/-- All problems of a library; an empty list means that it is valid. -/
def problems (library : Library) : List Problem :=
  library.templates.flatMap fun template =>
    (library.templateFaults template).map fun fault =>
      { template := template.name, fault }

end Library

end RdfTemplates
