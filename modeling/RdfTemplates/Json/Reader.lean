import RdfTemplates.Json.Numeral

/-!
# Reading JSON text

The reader is a machine that takes one character at a time.  It keeps the
containers that are open, innermost first, and what it is in the middle of.  So
texts of any nesting are read by one pass, and the text is accepted if the
machine ends with a complete value and nothing open.

Of two members of one object with the same key the last one counts.
-/

namespace RdfTemplates.Json

namespace Reader

/-- A container with the items or members read so far, last first.  An object
also has the key whose value is being read. -/
inductive Container where
  | array (done : List Json)
  | object (done : List (String × Json)) (key : String)

/-- What the reader is in the middle of. -/
inductive Mode where
  /-- A value must come. -/
  | value
  /-- An array was just opened: a value or its end must come. -/
  | firstItem
  /-- An object was just opened: a key or its end must come. -/
  | firstKey (done : List (String × Json))
  /-- A key must come. -/
  | key (done : List (String × Json))
  /-- A key was read: a colon must come. -/
  | colon (done : List (String × Json)) (key : String)
  /-- A value was read. -/
  | complete (value : Json)
  /-- Inside a word, whose characters are kept last first. -/
  | word (chars : List Char)
  /-- Inside a string; `members` is present if the string is a key. -/
  | text (members : Option (List (String × Json))) (chars : List Char)
  /-- After a backslash in a string. -/
  | escape (members : Option (List (String × Json))) (chars : List Char)
  /-- Inside a `\u` escape: a preceding high surrogate, the value so far and the
  number of digits still to come. -/
  | hex (members : Option (List (String × Json))) (chars : List Char)
      (high : Option Nat) (value digits : Nat)
  /-- After a high surrogate: a backslash must come, or after it a `u`. -/
  | surrogate (members : Option (List (String × Json))) (chars : List Char)
      (high : Nat) (backslash : Bool)

structure State where
  containers : List Container := []
  mode : Mode := .value

def isBlank (char : Char) : Bool :=
  char == ' ' || char == '\t' || char == '\n' || char == '\r'

/-- Whether a character can belong to a numeral or to `true`, `false` or
`null`. -/
def isWordChar (char : Char) : Bool :=
  char.isAlphanum || char == '-' || char == '+' || char == '.'

def hexValue? (char : Char) : Option Nat :=
  if char.isDigit then some (char.toNat - '0'.toNat)
  else if 'a' ≤ char ∧ char ≤ 'f' then some (char.toNat - 'a'.toNat + 10)
  else if 'A' ≤ char ∧ char ≤ 'F' then some (char.toNat - 'A'.toNat + 10)
  else none

/-- The members, in order of first mention, with one more put at the end or in
the place of an earlier one with its key. -/
def putMember (key : String) (value : Json) :
    List (String × Json) → List (String × Json)
  | [] => [(key, value)]
  | (other, old) :: members =>
      if other = key then (key, value) :: members
      else (other, old) :: putMember key value members

/-- The members of a finished object. -/
def uniqueMembers (members : List (String × Json)) : List (String × Json) :=
  members.foldl (fun done (key, value) => putMember key value done) []

/-- The state after the closing bracket of a container. -/
def close (containers : List Container) (value : Json) : State :=
  { containers, mode := .complete value }

/-- A character after a complete value. -/
def afterValue (containers : List Container) (value : Json) (char : Char) :
    Option State :=
  if isBlank char then some { containers, mode := .complete value }
  else
    match containers, char with
    | .array done :: outer, ',' =>
        some { containers := .array (value :: done) :: outer, mode := .value }
    | .array done :: outer, ']' =>
        some (close outer (.array (value :: done).reverse))
    | .object done key :: outer, ',' =>
        some { containers := outer, mode := .key ((key, value) :: done) }
    | .object done key :: outer, '\x7d' =>
        some (close outer
          (.object (uniqueMembers ((key, value) :: done).reverse)))
    | _, _ => none

/-- A character where a value must begin. -/
def beginValue (containers : List Container) (char : Char) : Option State :=
  match char with
  | '"' => some { containers, mode := .text none [] }
  | '[' => some { containers := .array [] :: containers, mode := .firstItem }
  | '\x7b' => some { containers, mode := .firstKey [] }
  | char =>
      if isBlank char then some { containers }
      else if isWordChar char then some { containers, mode := .word [char] }
      else none

/-- A character where a key must begin. -/
def beginKey (containers : List Container) (done : List (String × Json))
    (char : Char) : Option State :=
  if isBlank char then some { containers, mode := .key done }
  else if char = '"' then some { containers, mode := .text (some done) [] }
  else none

/-- The state after the closing quote of a string. -/
def endText (containers : List Container)
    (members : Option (List (String × Json))) (chars : List Char) : State :=
  let text := String.ofList chars.reverse
  match members with
  | none => { containers, mode := .complete (.string text) }
  | some done => { containers, mode := .colon done text }

/-- The character that a one-letter escape stands for. -/
def escaped? : Char → Option Char
  | '"' => some '"'
  | '\\' => some '\\'
  | '/' => some '/'
  | 'b' => some '\x08'
  | 'f' => some '\x0c'
  | 'n' => some '\n'
  | 'r' => some '\r'
  | 't' => some '\t'
  | _ => none

/-- The state after the last digit of a `\u` escape.  The two halves of a
surrogate pair make one character, and neither half stands alone. -/
def endHex (containers : List Container)
    (members : Option (List (String × Json))) (chars : List Char)
    (high : Option Nat) (unit : Nat) : Option State :=
  match high with
  | none =>
      if 0xd800 ≤ unit ∧ unit < 0xdc00 then
        some { containers, mode := .surrogate members chars unit false }
      else if 0xdc00 ≤ unit ∧ unit < 0xe000 then none
      else some { containers, mode := .text members (Char.ofNat unit :: chars) }
  | some high =>
      if 0xdc00 ≤ unit ∧ unit < 0xe000 then
        let code := 0x10000 + (high - 0xd800) * 0x400 + (unit - 0xdc00)
        some { containers, mode := .text members (Char.ofNat code :: chars) }
      else none

/-- The next state, or `none` if no text goes on with this character. -/
def step (state : State) (char : Char) : Option State :=
  let containers := state.containers
  match state.mode with
  | .value => beginValue containers char
  | .firstItem =>
      match containers, char with
      | .array [] :: outer, ']' => some (close outer (.array []))
      | _, _ =>
          if isBlank char then some { containers, mode := .firstItem }
          else beginValue containers char
  | .firstKey done =>
      if char = '\x7d' then some (close containers (.object []))
      else if isBlank char then some { containers, mode := .firstKey done }
      else beginKey containers done char
  | .key done => beginKey containers done char
  | .colon done key =>
      if char = ':' then some { containers := .object done key :: containers }
      else if isBlank char then some { containers, mode := .colon done key }
      else none
  | .complete value => afterValue containers value char
  | .word chars =>
      if isWordChar char then some { containers, mode := .word (char :: chars) }
      else
        match ofWord? chars.reverse with
        | some value => afterValue containers value char
        | none => none
  | .text members chars =>
      if char = '"' then some (endText containers members chars)
      else if char = '\\' then
        some { containers, mode := .escape members chars }
      else if char.toNat < 0x20 then none
      else some { containers, mode := .text members (char :: chars) }
  | .escape members chars =>
      if char = 'u' then
        some { containers, mode := .hex members chars none 0 4 }
      else
        match escaped? char with
        | some char =>
            some { containers, mode := .text members (char :: chars) }
        | none => none
  | .hex members chars high value digits =>
      match hexValue? char with
      | none => none
      | some digit =>
          let value := 16 * value + digit
          if digits ≤ 1 then endHex containers members chars high value
          else some
            { containers, mode := .hex members chars high value (digits - 1) }
  | .surrogate members chars high backslash =>
      if backslash then
        if char = 'u' then
          some { containers, mode := .hex members chars (some high) 0 4 }
        else none
      else if char = '\\' then
        some { containers, mode := .surrogate members chars high true }
      else none

/-- The value of a text that has come to its end. -/
def finish (state : State) : Option Json :=
  match state.containers, state.mode with
  | [], .complete value => some value
  | [], .word chars => ofWord? chars.reverse
  | _, _ => none

def run : State → List Char → Option State
  | state, [] => some state
  | state, char :: chars =>
      match step state char with
      | some state => run state chars
      | none => none

end Reader

/-- Reads one JSON value with blanks around it. -/
def read? (text : String) : Option Json :=
  (Reader.run {} text.toList).bind Reader.finish

end RdfTemplates.Json
