/-!
# Sets of code points

Classes of characters, each a table of the code points in it.  The tables stand
in modules of their own.
-/

namespace RdfTemplates

/-- Whether ranges, given by their first and last members, ascend with a gap
between any two. -/
def CodePoints.ascending (ranges : List (Nat × Nat)) : Bool :=
  ranges.all (fun (first, last) => first ≤ last) &&
    (ranges.zip ranges.tail).all fun (range, next) => range.2 + 1 < next.1

/-- A set of code points, given by the first and the last of each range.  A code
point is in one range at most, and no two ranges could be written as one. -/
structure CodePoints where
  ranges : List (Nat × Nat)
  ascends : CodePoints.ascending ranges = true

def CodePoints.contains (set : CodePoints) (char : Char) : Bool :=
  set.ranges.any fun (first, last) =>
    first ≤ char.toNat && char.toNat ≤ last

end RdfTemplates
