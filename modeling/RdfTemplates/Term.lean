import RdfTemplates.Vocabulary

/-!
# Terms

A term is what stands in a template body, is passed as an argument, or fills a
position of a triple.  Only variables are unresolved; a term without variables,
at any depth of its lists, is ground.

Functions on terms come in pairs: one for a term and one, with `List` or a
plural in its name, for the items of a list.
-/

namespace RdfTemplates

/-- An RDF literal: a lexical form with a datatype IRI and, for language-tagged
strings, a language tag. -/
structure Literal where
  value : String
  datatype : String := Vocabulary.xsdString
  language : Option String := none
  deriving DecidableEq, Inhabited

namespace Literal

/-- A plain string literal. -/
def plain (value : String) : Literal :=
  { value }

/-- A literal with an explicit datatype IRI. -/
def typed (value datatype : String) : Literal :=
  { value, datatype }

/-- A language-tagged string. -/
def tagged (value language : String) : Literal :=
  { value, datatype := Vocabulary.rdfLangString, language := some language }

end Literal

/-- A term of a template body, an argument or a triple.  In a body, a blank node
is a placeholder for a node that is fresh in every repetition. -/
inductive Term where
  | iri (iri : String)
  | literal (literal : Literal)
  | blank (label : String)
  | var (name : String)
  | list (items : List Term)
  /-- The absent value. -/
  | none
  deriving Inhabited

/-- The kind of a term, without its content. -/
inductive TermKind where
  | iri
  | literal
  | blank
  | var
  | list
  | none
  deriving DecidableEq

/-- The name of a kind in answers to people. -/
def TermKind.text : TermKind → String
  | .iri => "IRI"
  | .literal => "literal"
  | .blank => "blank node"
  | .var => "variable"
  | .list => "list"
  | .none => "none"

namespace Term

mutual

/-- Structural comparison. -/
def same : Term → Term → Bool
  | .iri left, .iri right => left == right
  | .literal left, .literal right => left == right
  | .blank left, .blank right => left == right
  | .var left, .var right => left == right
  | .list left, .list right => sameList left right
  | .none, .none => true
  | _, _ => false

def sameList : List Term → List Term → Bool
  | [], [] => true
  | left :: lefts, right :: rights => same left right && sameList lefts rights
  | _, _ => false

end

mutual

theorem same_iff : ∀ left right : Term, same left right = true ↔ left = right
  | .iri _, right | .literal _, right | .blank _, right | .var _, right => by
      cases right <;> simp [same]
  | .none, right => by cases right <;> simp [same]
  | .list left, right => by
      cases right <;> simp [same]
      case list right => exact sameList_iff left right

theorem sameList_iff :
    ∀ left right : List Term, sameList left right = true ↔ left = right
  | [], right => by cases right <;> simp [sameList]
  | left :: lefts, right => by
      cases right with
      | nil => simp [sameList]
      | cons right rights =>
          simp [sameList, same_iff left right, sameList_iff lefts rights]

end

instance : DecidableEq Term := fun left right =>
  decidable_of_iff _ (same_iff left right)

/-- A plain string literal as a term. -/
def string (value : String) : Term :=
  .literal (.plain value)

def kind : Term → TermKind
  | .iri _ => .iri
  | .literal _ => .literal
  | .blank _ => .blank
  | .var _ => .var
  | .list _ => .list
  | .none => .none

def isNone : Term → Bool
  | .none => true
  | _ => false

def items? : Term → Option (List Term)
  | .list items => some items
  | _ => Option.none

mutual

/-- The variables of a term, one entry for each occurrence, depth first. -/
def variableNames : Term → List String
  | .var name => [name]
  | .list items => listVariableNames items
  | .iri _ | .literal _ | .blank _ | .none => []

def listVariableNames : List Term → List String
  | [] => []
  | item :: items => item.variableNames ++ listVariableNames items

end

mutual

/-- Whether no variable occurs in the term at any depth. -/
def isGround : Term → Bool
  | .var _ => false
  | .list items => areGround items
  | .iri _ | .literal _ | .blank _ | .none => true

def areGround : List Term → Bool
  | [] => true
  | item :: items => item.isGround && areGround items

end

mutual

/-- The first variable of the term, depth first. -/
def firstVariable? : Term → Option String
  | .var name => some name
  | .list items => firstVariableIn? items
  | .iri _ | .literal _ | .blank _ | .none => Option.none

def firstVariableIn? : List Term → Option String
  | [] => Option.none
  | item :: items =>
      match item.firstVariable? with
      | some name => some name
      | Option.none => firstVariableIn? items

end

mutual

/-- Whether a blank node occurs in the term at any depth. -/
def hasBlank : Term → Bool
  | .blank _ => true
  | .list items => anyHasBlank items
  | .iri _ | .literal _ | .var _ | .none => false

def anyHasBlank : List Term → Bool
  | [] => false
  | item :: items => item.hasBlank || anyHasBlank items

end

end Term

end RdfTemplates
