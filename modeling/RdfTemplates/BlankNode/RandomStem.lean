/-!
# Random stems

A stem that is not chosen by the caller is a random identifier of 128 bits, six
of which mark it as such: 32 lowercase hexadecimal digits with the version digit
4 and a variant digit from 8 to b.
-/

namespace RdfTemplates.RandomStem

/-- The hexadecimal digit at a position of the identifier made from random
bits. -/
def digit (bits position : Nat) : Nat :=
  let random := (bits >>> (4 * position)) % 16
  if position = 12 then 4 else if position = 16 then 8 + random % 4 else random

/-- The identifier made from 128 random bits. -/
def ofBits (bits : Nat) : String :=
  String.ofList ((List.range 32).map fun position =>
    Nat.digitChar (digit bits position))

def isLowerHex (char : Char) : Bool :=
  char.isDigit || ('a' ≤ char && char ≤ 'f')

/-- Whether a text is an identifier of this form. -/
def isWellFormed (text : String) : Bool :=
  let chars := text.toList
  chars.length == 32 && chars.all isLowerHex && chars[12]? == some '4'

end RdfTemplates.RandomStem
