/-!
# JSON values

The data format in which template definitions are exchanged.  Counts are the
only numbers the format of this library uses, so a value keeps natural numbers
below 2^64 as such and every other numeral as its text.
-/

namespace RdfTemplates

inductive Json where
  | null
  | bool (value : Bool)
  /-- A natural number below 2^64. -/
  | natural (value : Nat)
  /-- Any other numeral, as it was written. -/
  | numeral (text : String)
  | string (text : String)
  | array (items : List Json)
  | object (members : List (String × Json))
  deriving Inhabited

namespace Json

def text? : Json → Option String
  | .string text => some text
  | _ => none

def bool? : Json → Option Bool
  | .bool value => some value
  | _ => none

def natural? : Json → Option Nat
  | .natural value => some value
  | _ => none

def items? : Json → Option (List Json)
  | .array items => some items
  | _ => none

def isNull : Json → Bool
  | .null => true
  | _ => false

/-- The value of a member of an object. -/
def member? (key : String) : Json → Option Json
  | .object members => members.lookup key
  | _ => none

end Json

end RdfTemplates
