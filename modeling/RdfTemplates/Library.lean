import RdfTemplates.Template

/-!
# Libraries

A library holds templates by name, in the order of their definition, and
prefixes with which the names of root instances may be abbreviated.  A template
is defined once and never changed.
-/

namespace RdfTemplates

structure Library where
  templates : List Template := []
  /-- Abbreviations with the namespaces they stand for, the newest first. -/
  prefixes : List (String × String) := []
  deriving DecidableEq, Inhabited

namespace Library

def find? (library : Library) (name : String) : Option Template :=
  library.templates.find? (·.name == name)

def contains (library : Library) (name : String) : Bool :=
  library.templates.any (·.name == name)

/-- The template of exactly this name. -/
def lookup (library : Library) (name : String) : Except Fault Template :=
  match library.find? name with
  | some template => .ok template
  | none => .error (.unknownTemplate name)

/-- Adds a definition.  The name must be new and not that of the built-in triple
template, and no two parameters may have one name. -/
def define (library : Library) (template : Template) : Except Fault Library :=
  if library.contains template.name ||
      template.name == Vocabulary.ottrTriple then
    .error (.duplicateTemplate template.name)
  else
    match template.signature.duplicateParameter? with
    | some name => .error (.duplicateBinding name)
    | none => .ok { library with templates := library.templates ++ [template] }

/-- Adds definitions one by one.  The names of those added are listed also if a
later one is refused. -/
def defineAll (library : Library) :
    List Template → List String × Except Fault Library
  | [] => ([], .ok library)
  | template :: templates =>
      match library.define template with
      | .error fault => ([], .error fault)
      | .ok library =>
          let (names, result) := library.defineAll templates
          (template.name :: names, result)

/-- The library of the given templates, or what is wrong with the first one that
cannot be added. -/
def ofTemplates (templates : List Template) : Except Fault Library :=
  (defineAll {} templates).2

/-- Lets a prefix stand for a namespace, whatever it stood for before. -/
def addPrefix (library : Library) (short namespaceIri : String) : Library :=
  { library with prefixes := (short, namespaceIri) :: library.prefixes }

/-- Splits a name at its first colon. -/
def splitAtColon? (name : String) : Option (String × String) :=
  match name.toList.dropWhile (· != ':') with
  | [] => none
  | _ :: rest =>
      some (String.ofList (name.toList.takeWhile (· != ':')),
        String.ofList rest)

/-- Whether instances of this name can be expanded. -/
def hasInstances (library : Library) (name : String) : Bool :=
  name == Vocabulary.ottrTriple || library.contains name

/-- What an abbreviated name stands for, if its prefix is known. -/
def unabbreviate? (library : Library) (name : String) : Option String :=
  match splitAtColon? name with
  | some (short, rest) => (library.prefixes.lookup short).map (· ++ rest)
  | none => none

/-- The template name that a root instance means.  A name that exists is meant
as it stands; any other may be abbreviated by a prefix. -/
def resolveRoot (library : Library) (name : String) : Except Fault String :=
  if library.hasInstances name then .ok name
  else
    match library.unabbreviate? name with
    | some full =>
        if library.hasInstances full then .ok full
        else .error (.unknownTemplate full)
    | none => .error (.unknownTemplate name)

end Library

end RdfTemplates
