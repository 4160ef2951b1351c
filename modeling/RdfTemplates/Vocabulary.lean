/-!
# Vocabulary

The IRIs that template expansion gives a meaning of its own: the built-in triple
template, the absent value, and the RDF collection and datatype terms.
-/

namespace RdfTemplates.Vocabulary

/-- Namespace of the template vocabulary. -/
def ottr : String := "http://ns.ottr.xyz/0.4/"

/-- The built-in template whose instances are triples. -/
def ottrTriple : String := "http://ns.ottr.xyz/0.4/Triple"

/-- The IRI of the absent value. -/
def ottrNone : String := "http://ns.ottr.xyz/0.4/none"

def rdfFirst : String := "http://www.w3.org/1999/02/22-rdf-syntax-ns#first"

def rdfRest : String := "http://www.w3.org/1999/02/22-rdf-syntax-ns#rest"

def rdfNil : String := "http://www.w3.org/1999/02/22-rdf-syntax-ns#nil"

def rdfLangString :
    String := "http://www.w3.org/1999/02/22-rdf-syntax-ns#langString"

def xsdString : String := "http://www.w3.org/2001/XMLSchema#string"

end RdfTemplates.Vocabulary
