import RdfTemplates.Term.Text

/-!
# Triples

Three terms.  A triple pattern of a template body has the same shape as a triple
of the output; only the latter is known to be an RDF triple.
-/

namespace RdfTemplates

structure Triple where
  subject : Term
  predicate : Term
  object : Term
  deriving DecidableEq, Inhabited

namespace Triple

/-- The triple as an N-Triples statement. -/
def text (triple : Triple) : String :=
  triple.subject.text ++ " " ++ triple.predicate.text ++ " " ++
    triple.object.text ++ " ."

/-- The three terms in statement order. -/
def terms (triple : Triple) : List Term :=
  [triple.subject, triple.predicate, triple.object]

end Triple

end RdfTemplates
