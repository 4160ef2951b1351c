import RdfTemplates.Expansion

/-!
# Emission of triples

A triple with an absent position is dropped.  Every other triple must have an
IRI or blank node as its subject, an IRI as its predicate, and a ground object;
a list in the place of the object is written out as an RDF collection, whose
triples come before the triple that refers to its head.
-/

namespace RdfTemplates.Expansion

private def notGround : String := "not a ground RDF term"

/-- Why a term cannot be a subject. -/
def subjectObjection? : Term → Option String
  | .iri _ | .blank _ => none
  | .literal _ => some "a literal cannot be a subject"
  | .list _ => some "a list cannot be a subject"
  | .var _ | .none => some notGround

/-- Why a term cannot be a predicate. -/
def predicateObjection? : Term → Option String
  | .iri _ => none
  | _ => some "a predicate must be an IRI"

/-- Fails if there is an objection against a term in its position. -/
def checkPosition (position : String) (term : Term)
    (objection : Option String) : Expansion Unit :=
  match objection with
  | some reason => fail (.invalidTriple position term reason)
  | none => pure ()

/-- The node that stands for a list, given the cells of its items. -/
def listNode (later : List Term) : Term :=
  later.head?.getD (.iri Vocabulary.rdfNil)

mutual

/-- What a cell holds for an item.  A list is written as a collection, all cells
of which are allocated before anything is written, and is held by its head. -/
def itemValue : Term → Expansion Term
  | .list items => do
      let cells ← freshBlanks items.length
      writeCells items cells
      pure (listNode cells)
  | .none => fail
      (.invalidTriple "list element" .none "ottr:none cannot be a list element")
  | .var name => fail (.invalidTriple "list element" (.var name) notGround)
  | .iri name => pure (.iri name)
  | .literal value => pure (.literal value)
  | .blank label => pure (.blank label)

/-- Writes items into cells. -/
def writeCells : List Term → List Term → Expansion Unit
  | item :: items, cell :: cells => do
      let value ← itemValue item
      emit ⟨cell, .iri Vocabulary.rdfFirst, value⟩
      emit ⟨cell, .iri Vocabulary.rdfRest, listNode cells⟩
      writeCells items cells
  | _, _ => pure ()

end

/-- Writes a list as a collection and returns its head. -/
def writeCollection (items : List Term) : Expansion Term :=
  itemValue (.list items)

/-- What the object position holds for a term. -/
def objectValue : Term → Expansion Term
  | .list items => writeCollection items
  | .var name => fail (.invalidTriple "object" (.var name) notGround)
  | term => pure term

/-- Checks a triple and emits it. -/
def writeTriple (subject predicate object : Term) : Expansion Unit :=
  if subject.isNone || predicate.isNone || object.isNone then
    record .tripleDropped
  else do
    checkPosition "subject" subject (subjectObjection? subject)
    checkPosition "predicate" predicate (predicateObjection? predicate)
    let object ← objectValue object
    emit ⟨subject, predicate, object⟩

/-- An instance of the built-in triple template. -/
def writeTripleInstance : List Term → Expansion Unit
  | [subject, predicate, object] => writeTriple subject predicate object
  | arguments => fail (.tripleArity arguments.length)

end RdfTemplates.Expansion
