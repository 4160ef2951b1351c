import RdfTemplates.Triple

/-!
# Relabelling of blank nodes

Blank node labels have no meaning of their own.  Two outputs that differ in
labels only become equal when each is relabelled by first appearance.
-/

namespace RdfTemplates

namespace Term

mutual

/-- The term with every blank node renamed. -/
def relabel (rename : String → String) : Term → Term
  | .blank label => .blank (rename label)
  | .list items => .list (relabelList rename items)
  | .iri name => .iri name
  | .literal value => .literal value
  | .var name => .var name
  | .none => .none

def relabelList (rename : String → String) : List Term → List Term
  | [] => []
  | item :: items => item.relabel rename :: relabelList rename items

end

/-- The label of a blank node. -/
def blankLabel? : Term → Option String
  | .blank label => some label
  | _ => Option.none

end Term

/-- The triple with every blank node renamed. -/
def Triple.relabel (rename : String → String) (triple : Triple) : Triple :=
  { subject := triple.subject.relabel rename
    predicate := triple.predicate.relabel rename
    object := triple.object.relabel rename }

/-- The labels of the blank nodes of triples, in order of first appearance. -/
def blankLabels (triples : List Triple) : List String :=
  (triples.flatMap
    fun triple => triple.terms.filterMap Term.blankLabel?).eraseDups

/-- The triples with their blank nodes named `c0`, `c1` and so on by first
appearance. -/
def relabelByAppearance (triples : List Triple) : List Triple :=
  let labels := blankLabels triples
  triples.map (Triple.relabel fun label => "c" ++ toString (labels.idxOf label))

/-- The labels that occur in both of two outputs. -/
def sharedLabels (lefts rights : List Triple) : List String :=
  let labels := blankLabels rights
  (blankLabels lefts).filter (labels.contains ·)

end RdfTemplates
