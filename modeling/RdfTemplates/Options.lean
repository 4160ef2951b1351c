import RdfTemplates.BlankNode
import RdfTemplates.BlankNode.RandomStem

/-!
# Options

What a caller may choose about an expansion.
-/

namespace RdfTemplates

/-- The limit on active calls when none is chosen. -/
def defaultMaxDepth : Nat := 256

structure Options where
  /-- How many calls may be active at one time. -/
  maxDepth : Nat := defaultMaxDepth
  /-- Whether arguments are checked against declared types. -/
  checkTypes : Bool := true
  /-- The stem of fresh blank node labels; a random one is used if it is
  unset. -/
  blankStem : Option String := none
  deriving DecidableEq, Inhabited

namespace Options

/-- The source of labels for an expansion, given random bits for an unset
stem. -/
def labels (options : Options) (random : Nat) : LabelSource :=
  { stem := options.blankStem.getD (RandomStem.ofBits random) }

end Options

end RdfTemplates
