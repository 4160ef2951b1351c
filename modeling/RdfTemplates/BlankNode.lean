import RdfTemplates.Term

/-!
# Blank nodes

Fresh labels are a stem followed by a count.  A body term is localized by
replacing its blank nodes, which are only placeholders, by nodes that are fresh
in the current repetition; equal placeholders become equal nodes.
-/

namespace RdfTemplates

/-- A source of fresh labels. -/
structure LabelSource where
  stem : String
  /-- The number of labels handed out so far.  A run is taken to hand out fewer
  than 2^64 of them, so that a count kept in 64 bits does not start again. -/
  allocated : Nat := 0
  deriving DecidableEq, Inhabited

namespace LabelSource

/-- The label with a given count. -/
def label (stem : String) (count : Nat) : String :=
  stem ++ "_" ++ toString count

def fresh (source : LabelSource) : String × LabelSource :=
  (label source.stem source.allocated,
    { source with allocated := source.allocated + 1 })

end LabelSource

/-- The labels that stand for the placeholders met so far in one repetition. -/
structure Placeholders where
  labels : List (String × String) := []
  deriving DecidableEq

namespace Placeholders

def size (placeholders : Placeholders) : Nat :=
  placeholders.labels.length

/-- The label of a placeholder, allocated when it is first met. -/
def labelFor (placeholders : Placeholders) (source : LabelSource)
    (placeholder : String) : String × Placeholders × LabelSource :=
  match placeholders.labels.lookup placeholder with
  | some label => (label, placeholders, source)
  | none =>
      let (label, source) := source.fresh
      (label, { labels := (placeholder, label) :: placeholders.labels }, source)

mutual

/-- The term with its placeholders replaced.  Variables are left alone, so blank
nodes in the values of parameters are never renamed. -/
def localize (placeholders : Placeholders) (source : LabelSource) :
    Term → Term × Placeholders × LabelSource
  | .blank placeholder =>
      let (label, placeholders, source) :=
        placeholders.labelFor source placeholder
      (.blank label, placeholders, source)
  | .list items =>
      let (items, placeholders, source) :=
        placeholders.localizeList source items
      (.list items, placeholders, source)
  | .iri name => (.iri name, placeholders, source)
  | .literal value => (.literal value, placeholders, source)
  | .var name => (.var name, placeholders, source)
  | .none => (.none, placeholders, source)

def localizeList (placeholders : Placeholders) (source : LabelSource) :
    List Term → List Term × Placeholders × LabelSource
  | [] => ([], placeholders, source)
  | item :: items =>
      let (item, placeholders, source) := placeholders.localize source item
      let (items, placeholders, source) :=
        placeholders.localizeList source items
      (item :: items, placeholders, source)

end

end Placeholders

end RdfTemplates
