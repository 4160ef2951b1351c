import RdfTemplates.Term

/-!
# Parameter types

The declared type of a template parameter and the terms it accepts.
-/

namespace RdfTemplates

inductive ParameterType where
  | iri
  /-- A literal, of one datatype if that is given. -/
  | literal (datatype : Option String)
  | blank
  | any
  | list (items : ParameterType)
  | nonEmptyList (items : ParameterType)
  deriving DecidableEq, Inhabited

namespace ParameterType

def isList : ParameterType → Bool
  | .list _ | .nonEmptyList _ => true
  | .iri | .literal _ | .blank | .any => false

/-- Whether a term belongs to the type.  The absent value belongs to every type:
whether a parameter may be absent is not a matter of its type. -/
def accepts : ParameterType → Term → Bool
  | _, .none => true
  | .any, _ => true
  | .iri, .iri _ => true
  | .blank, .blank _ => true
  | .literal Option.none, .literal _ => true
  | .literal (some datatype), .literal value => value.datatype == datatype
  | .list type, .list items => items.all type.accepts
  | .nonEmptyList type, .list items => !items.isEmpty && items.all type.accepts
  | _, _ => false

def text : ParameterType → String
  | .iri => "IRI"
  | .literal none => "Literal"
  | .literal (some datatype) => "<" ++ datatype ++ ">"
  | .blank => "BlankNode"
  | .any => "Any"
  | .list type => "List<" ++ type.text ++ ">"
  | .nonEmptyList type => "NEList<" ++ type.text ++ ">"

end ParameterType

end RdfTemplates
