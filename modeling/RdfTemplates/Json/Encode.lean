import RdfTemplates.Json
import RdfTemplates.Options
import RdfTemplates.Template

/-!
# JSON form of definitions

How terms, templates, instances, triples and options are written as JSON values.
A term is an object of its kind and its value; a pattern is an object that names
its shape beside its parts; an argument is a term or an instance, which no
reader can confuse because only terms have a kind.
-/

namespace RdfTemplates

namespace Json

/-- An object without the members that have no value. -/
def ofMembers (members : List (String × Option Json)) : Json :=
  .object (members.filterMap fun (key, value) => value.map (key, ·))

/-- A value, or null for none. -/
def ofOption (value : Option Json) : Json :=
  value.getD .null

end Json

def Literal.toJson (literal : Literal) : Json :=
  .ofMembers
    [("value", some (.string literal.value)),
      ("datatype", some (.string literal.datatype)),
      ("language", literal.language.map .string)]

namespace Term

/-- The name of a kind of term in the JSON form. -/
def kindTag : TermKind → String
  | .iri => "iri"
  | .literal => "literal"
  | .blank => "blank_node"
  | .var => "variable"
  | .list => "list"
  | .none => "none"

/-- A term of a kind with its value. -/
def tagged (kind : TermKind) (value : Json) : Json :=
  .object [("kind", .string (kindTag kind)), ("value", value)]

mutual

def toJson : Term → Json
  | .iri name => tagged .iri (.string name)
  | .literal value => tagged .literal value.toJson
  | .blank label => tagged .blank (.string label)
  | .var name => tagged .var (.string name)
  | .list items => tagged .list (.array (listToJson items))
  | .none => .object [("kind", .string (kindTag .none))]

def listToJson : List Term → List Json
  | [] => []
  | item :: items => item.toJson :: listToJson items

end

end Term

def Triple.members (triple : Triple) : List (String × Json) :=
  [("subject", triple.subject.toJson), ("predicate", triple.predicate.toJson),
    ("object", triple.object.toJson)]

def Triple.toJson (triple : Triple) : Json :=
  .object triple.members

def ParameterType.toJson : ParameterType → Json
  | .iri => .string "iri"
  | .literal datatype => .object [("literal", .ofOption (datatype.map .string))]
  | .blank => .string "blank_node"
  | .any => .string "any"
  | .list type => .object [("list", type.toJson)]
  | .nonEmptyList type => .object [("non_empty_list", type.toJson)]

def Modifier.tag : Modifier → String
  | .cross => "cross"
  | .zip => "zip"
  | .zipMin => "zipMin"
  | .zipMax => "zipMax"

def Modifier.toJson (modifier : Modifier) : Json :=
  .string modifier.tag

def Parameter.toJson (parameter : Parameter) : Json :=
  .ofMembers
    [("name", some (.string parameter.name)),
      ("type", parameter.type.map (·.toJson)),
      ("default", parameter.default.map (·.toJson)),
      ("modifier", parameter.modifier.map (·.toJson)),
      ("optional", some (.bool parameter.optional)),
      ("non_blank", some (.bool parameter.nonBlank)),
      ("variadic", some (.bool parameter.variadic))]

def Signature.toJson (signature : Signature) : Json :=
  .object
    [("name", .string signature.name),
      ("parameters", .array (signature.parameters.map (·.toJson)))]

namespace Argument

mutual

def toJson : Argument → Json
  | .term value => value.toJson
  | .nested template arguments =>
      .object [("template", .string template),
        ("arguments", .array (listToJson arguments))]

def listToJson : List Argument → List Json
  | [] => []
  | argument :: arguments => argument.toJson :: listToJson arguments

end

end Argument

def Pattern.toJson : Pattern → Json
  | .triple parts => .object (("pattern", .string "triple") :: parts.members)
  | .nested template arguments =>
      .object
        [("pattern", .string "instance"), ("template", .string template),
          ("arguments", .array (Argument.listToJson arguments))]

def Template.toJson (template : Template) : Json :=
  .object
    [("signature", template.signature.toJson),
      ("body", .array (template.body.map (·.toJson)))]

def Instance.toJson (inst : Instance) : Json :=
  .object
    [("template", .string inst.template),
      ("arguments", .array (Term.listToJson inst.arguments))]

def Options.toJson (options : Options) : Json :=
  .object
    [("max-depth", .natural options.maxDepth),
      ("check-types", .bool options.checkTypes),
      ("blank-node-namespace", .ofOption (options.blankStem.map .string))]

end RdfTemplates
