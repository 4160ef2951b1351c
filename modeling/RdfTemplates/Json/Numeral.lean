import RdfTemplates.Json

/-!
# Numerals

A JSON numeral is an optional minus sign, an integer part without leading zeros,
an optional fraction and an optional exponent.  One whose magnitude no double
can hold is refused.
-/

namespace RdfTemplates.Json

/-- The value of a digit string. -/
def digitsValue (digits : List Char) : Nat :=
  digits.foldl (fun value digit => 10 * value + (digit.toNat - '0'.toNat)) 0

/-- The parts of a numeral. -/
structure Numeral where
  negative : Bool
  whole : List Char
  /-- The digits after the point, if there is a point. -/
  fraction : Option (List Char)
  /-- The sign and digits of the exponent, if there is one. -/
  exponent : Option (Bool × List Char)

namespace Numeral

private def readExponent : List Char → Option (Option (Bool × List Char))
  | [] => some none
  | mark :: rest =>
      if mark = 'e' ∨ mark = 'E' then
        let (negative, digits) :=
          match rest with
          | '-' :: digits => (true, digits)
          | '+' :: digits => (false, digits)
          | digits => (false, digits)
        if digits ≠ [] ∧ digits.all Char.isDigit then
          some (some (negative, digits))
        else none
      else none

private def readFraction :
    List Char → Option (Option (List Char) × Option (Bool × List Char))
  | '.' :: rest =>
      let digits := rest.takeWhile Char.isDigit
      if digits = [] then none
      else (readExponent (rest.dropWhile Char.isDigit)).map (some digits, ·)
  | rest => (readExponent rest).map (none, ·)

/-- Reads a whole numeral; `none` if the characters are not one. -/
def read? (chars : List Char) : Option Numeral :=
  let (negative, unsigned) :=
    match chars with
    | '-' :: unsigned => (true, unsigned)
    | unsigned => (false, unsigned)
  let whole := unsigned.takeWhile Char.isDigit
  let wellFormed :=
    match whole with
    | [] => false
    | ['0'] => true
    | first :: _ => first != '0'
  if wellFormed then
    (readFraction (unsigned.dropWhile Char.isDigit)).map
      fun (fraction, exponent) =>
      { negative, whole, fraction, exponent }
  else none

/-- The least magnitude that rounds past the greatest finite double. -/
def doubleLimit : Nat :=
  Nat.pow 2 1024 - Nat.pow 2 970

/-- Whether some finite double is nearest to the numeral.  The number of digits
decides all but the numerals near the limit, so no large power is computed. -/
def fitsDouble (numeral : Numeral) : Bool :=
  let fraction := numeral.fraction.getD []
  let digits := (numeral.whole ++ fraction).dropWhile (· == '0')
  let (lower, shift) :=
    match numeral.exponent with
    | some (negative, exponent) => (negative, digitsValue exponent)
    | none => (false, 0)
  -- the value is `digits * 10 ^ (up - down)`
  let up := if lower then 0 else shift
  let down := fraction.length + if lower then shift else 0
  if digits.isEmpty then true
  else if digits.length + up < 309 + down then true
  else if digits.length + up > 309 + down then false
  else
    digitsValue digits * Nat.pow 10 (up - down) <
      doubleLimit * Nat.pow 10 (down - up)

/-- The value of a numeral: a natural number if it is written as one and is
below 2^64, and its text otherwise. -/
def value (numeral : Numeral) (chars : List Char) : Json :=
  if numeral.negative || numeral.fraction.isSome || numeral.exponent.isSome then
    .numeral (String.ofList chars)
  else
    let number := digitsValue numeral.whole
    if number < Nat.pow 2 64 then .natural number
    else .numeral (String.ofList chars)

end Numeral

/-- The value that a run of characters outside strings stands for. -/
def ofWord? (chars : List Char) : Option Json :=
  if chars = "null".toList then some .null
  else if chars = "true".toList then some (.bool true)
  else if chars = "false".toList then some (.bool false)
  else
    match Numeral.read? chars with
    | some parts => if parts.fitsDouble then some (parts.value chars) else none
    | none => none

end RdfTemplates.Json
