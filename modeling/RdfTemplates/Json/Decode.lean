import RdfTemplates.Json
import RdfTemplates.Options
import RdfTemplates.Template

/-!
# Definitions from JSON

Reading terms, templates, instances, triples and options from JSON values;
`none` stands for a value that is not of the form.

A record is an object of its fields, in any order and with others between them,
or an array of its fields in order, from whose end fields may be missing.
Members that are not fields are ignored.
-/

namespace RdfTemplates

namespace Json

/-- The fields of a record that has these keys; a missing field is `none`. -/
def fields? (keys : List String) : Json → Option (List (Option Json))
  | .object members => some (keys.map fun key => members.lookup key)
  | .array items =>
      if items.length ≤ keys.length then
        some (items.map some ++
          List.replicate (keys.length - items.length) none)
      else none
  | _ => none

/-- A field that may be missing, in which case it has a default. -/
def fieldOr {α : Type} (default : α) (read : Json → Option α) :
    Option Json → Option α
  | none => some default
  | some json => read json

/-- A field that may be missing or null. -/
def optionalField {α : Type} (read : Json → Option α) :
    Option Json → Option (Option α)
  | none | some .null => some none
  | some json => (read json).map some

/-- An array, all of whose items can be read. -/
def listOf? {α : Type} (read : Json → Option α) : Json → Option (List α)
  | .array items => items.mapM read
  | _ => none

/-- The name of an alternative without content: a string, or an object that has
the name as its only key with the value null. -/
def unitTag? : Json → Option String
  | .string tag => some tag
  | .object [(tag, .null)] => some tag
  | _ => none

end Json

open Json (fields? fieldOr optionalField listOf? unitTag?)

def Literal.ofJson? (json : Json) : Option Literal := do
  let [value, datatype, language] ←
    fields? ["value", "datatype", "language"] json | none
  pure
    { value := ← (← value).text?
      datatype := ← fieldOr Vocabulary.xsdString Json.text? datatype
      language := ← optionalField Json.text? language }

/-- The kind of term that a name in the JSON form stands for. -/
def TermKind.ofTag? : String → Option TermKind
  | "iri" => some .iri
  | "literal" => some .literal
  | "blank_node" => some .blank
  | "variable" => some .var
  | "list" => some .list
  | "none" => some .none
  | _ => Option.none

/-- The kinds in the order of their numbers, which start at zero. -/
def TermKind.numbered : List TermKind :=
  [.iri, .literal, .blank, .var, .list, .none]

/-- Where a term is written; its items are written at the same place.  The form
of a term is the same everywhere, but a template body is freer in how the kind
of a term is given. -/
inductive TermPlace where
  /-- Outside the body of a template. -/
  | outside
  /-- In an argument of an instance in a body. -/
  | bodyArgument
  /-- In a triple of a body. -/
  | bodyTriple
  deriving DecidableEq

namespace TermPlace

/-- The kind in a term that is a pair of kind and value.  In a body it may be
given by its number. -/
def kindInPair? (place : TermPlace) : Json → Option TermKind
  | .string tag => TermKind.ofTag? tag
  | .natural number =>
      if place = outside then none else TermKind.numbered[number]?
  | _ => none

/-- The kind in a term that is an object.  In a triple of a body the content of
its name may be an empty object in place of null. -/
def kindInObject? (place : TermPlace) : Json → Option TermKind
  | .object [(tag, .object [])] =>
      if place = bodyTriple then TermKind.ofTag? tag else none
  | json => (unitTag? json).bind TermKind.ofTag?

/-- The kind among the members of a term. -/
def kindIn? (place : TermPlace) (members : List (String × Json)) :
    Option TermKind :=
  (members.lookup "kind").bind place.kindInObject?

end TermPlace

namespace Term

mutual

/-- The term written at a place: an object of its kind and value, or a pair of
them. -/
def readAt? (place : TermPlace) : Json → Option Term
  | .object members =>
      match place.kindIn? members with
      | some kind => readMembers? place kind members
      | Option.none => Option.none
  | .array [tag, value] =>
      match place.kindInPair? tag with
      | some kind => readValue? place kind value
      | Option.none => Option.none
  | _ => Option.none

/-- The term of a kind whose value is among the members of an object. -/
def readMembers? (place : TermPlace) (kind : TermKind) :
    List (String × Json) → Option Term
  | [] => if kind = .none then some .none else Option.none
  | (key, value) :: members =>
      if key = "value" then readValue? place kind value
      else readMembers? place kind members

/-- The term of a kind with this value. -/
def readValue? (place : TermPlace) (kind : TermKind) (value : Json) :
    Option Term :=
  match kind, value with
  | .iri, .string name => some (.iri name)
  | .literal, value => (Literal.ofJson? value).map .literal
  | .blank, .string label => some (.blank label)
  | .var, .string name => some (.var name)
  | .list, .array items =>
      match readList? place items with
      | some items => some (.list items)
      | Option.none => Option.none
  | .none, .null => some .none
  | _, _ => Option.none

def readList? (place : TermPlace) : List Json → Option (List Term)
  | [] => some []
  | item :: items =>
      match readAt? place item, readList? place items with
      | some item, some items => some (item :: items)
      | _, _ => Option.none

end

/-- A term outside the body of a template. -/
def ofJson? (json : Json) : Option Term :=
  readAt? .outside json

end Term

/-- The triple written at a place. -/
def Triple.readAt? (place : TermPlace) (json : Json) : Option Triple := do
  let [subject, predicate, object] ←
    fields? ["subject", "predicate", "object"] json | none
  pure
    { subject := ← Term.readAt? place (← subject)
      predicate := ← Term.readAt? place (← predicate)
      object := ← Term.readAt? place (← object) }

/-- A triple outside the body of a template. -/
def Triple.ofJson? (json : Json) : Option Triple :=
  Triple.readAt? .outside json

def ParameterType.ofJson? : Json → Option ParameterType
  | .string "iri" | .object [("iri", .null)] => some .iri
  | .string "blank_node" | .object [("blank_node", .null)] => some .blank
  | .string "any" | .object [("any", .null)] => some .any
  | .object [("literal", .null)] => some (.literal none)
  | .object [("literal", .string datatype)] => some (.literal (some datatype))
  | .object [("list", type)] => (ofJson? type).map .list
  | .object [("non_empty_list", type)] => (ofJson? type).map .nonEmptyList
  | _ => none

def Modifier.ofTag? : String → Option Modifier
  | "cross" => some .cross
  | "zip" => some .zip
  | "zipMin" => some .zipMin
  | "zipMax" => some .zipMax
  | _ => none

def Modifier.ofJson? (json : Json) : Option Modifier :=
  (unitTag? json).bind Modifier.ofTag?

def Parameter.ofJson? (json : Json) : Option Parameter := do
  let [name, type, default, modifier, optional, nonBlank, variadic] ←
    fields? ["name", "type", "default", "modifier", "optional", "non_blank",
      "variadic"] json
    | none
  pure
    { name := ← (← name).text?
      type := ← optionalField ParameterType.ofJson? type
      default := ← optionalField Term.ofJson? default
      modifier := ← optionalField Modifier.ofJson? modifier
      optional := ← fieldOr false Json.bool? optional
      nonBlank := ← fieldOr false Json.bool? nonBlank
      variadic := ← fieldOr false Json.bool? variadic }

def Signature.ofJson? (json : Json) : Option Signature := do
  let [name, parameters] ← fields? ["name", "parameters"] json | none
  pure
    { name := ← (← name).text?
      parameters := ← fieldOr [] (listOf? Parameter.ofJson?) parameters }

namespace Argument

mutual

/-- A value that can be read as a term is one, and any other an instance. -/
def ofJson? : Json → Option Argument
  | .object members =>
      match Term.readAt? .bodyArgument (.object members),
        members.lookup "template" with
      | some value, _ => some (.term value)
      | none, some (.string template) =>
          match argumentsIn? members with
          | some arguments => some (.nested template arguments)
          | none => none
      | none, _ => none
  | .array items =>
      match Term.readAt? .bodyArgument (.array items), items with
      | some value, _ => some (.term value)
      | none, [.string template] => some (.nested template [])
      | none, [.string template, .array arguments] =>
          match ofJsonList? arguments with
          | some arguments => some (.nested template arguments)
          | none => none
      | none, _ => none
  | _ => none

/-- The arguments among the members of an instance; there are none by
default. -/
def argumentsIn? : List (String × Json) → Option (List Argument)
  | [] => some []
  | (key, value) :: members =>
      if key = "arguments" then
        match value with
        | .array items => ofJsonList? items
        | _ => none
      else argumentsIn? members

def ofJsonList? : List Json → Option (List Argument)
  | [] => some []
  | item :: items =>
      match ofJson? item, ofJsonList? items with
      | some item, some items => some (item :: items)
      | _, _ => none

end

end Argument

/-- A pattern is read from its shape and the record of its parts.  In an array
the shape comes first. -/
def Pattern.ofJson? (json : Json) : Option Pattern := do
  let (shape, parts) ←
    match json with
    | .object members =>
        do pure (← members.lookup "pattern", Json.object members)
    | .array (shape :: parts) => some (shape, Json.array parts)
    | _ => none
  match shape with
  | .string "triple" => (Triple.readAt? .bodyTriple parts).map .triple
  | .string "instance" =>
      let [template, arguments] ← fields? ["template", "arguments"] parts | none
      let template ← (← template).text?
      let arguments ← fieldOr [] (listOf? Argument.ofJson?) arguments
      pure (.nested template arguments)
  | _ => none

def Template.ofJson? (json : Json) : Option Template := do
  let [signature, body] ← fields? ["signature", "body"] json | none
  pure
    { signature := ← Signature.ofJson? (← signature)
      body := ← fieldOr [] (listOf? Pattern.ofJson?) body }

def Instance.ofJson? (json : Json) : Option Instance := do
  let [template, arguments] ← fields? ["template", "arguments"] json | none
  pure
    { template := ← (← template).text?
      arguments := ← fieldOr [] (listOf? Term.ofJson?) arguments }

def Options.ofJson? (json : Json) : Option Options := do
  let [maxDepth, checkTypes, blankStem] ←
    fields? ["max-depth", "check-types", "blank-node-namespace"] json | none
  pure
    { maxDepth := ← fieldOr defaultMaxDepth Json.natural? maxDepth
      checkTypes := ← fieldOr true Json.bool? checkTypes
      blankStem := ← optionalField Json.text? blankStem }

end RdfTemplates
