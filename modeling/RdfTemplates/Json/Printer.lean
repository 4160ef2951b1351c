import RdfTemplates.Json

/-!
# Writing JSON text

Values are written on one line without blanks.
-/

namespace RdfTemplates.Json

private def hexDigit (value : Nat) : Char :=
  Nat.digitChar value

/-- How one character is written inside a string. -/
def writtenChar (char : Char) : List Char :=
  match char with
  | '"' => ['\\', '"']
  | '\\' => ['\\', '\\']
  | '\n' => ['\\', 'n']
  | '\r' => ['\\', 'r']
  | '\t' => ['\\', 't']
  | char =>
      if char.toNat < 0x20 then
        ['\\', 'u', '0', '0', hexDigit (char.toNat / 16),
          hexDigit (char.toNat % 16)]
      else [char]

def appendString (out : String) (text : String) : String :=
  (text.foldl (fun out char => (writtenChar char).foldl String.push out)
    (out.push '"')).push '"'

mutual

/-- Appends the text of a value. -/
def append (out : String) : Json → String
  | .null => out ++ "null"
  | .bool value => out ++ if value then "true" else "false"
  | .natural value => out ++ toString value
  | .numeral text => out ++ text
  | .string text => appendString out text
  | .array [] => out ++ "[]"
  | .array (item :: items) =>
      (appendItems (append (out.push '[') item) items).push ']'
  | .object [] => out ++ "\x7b\x7d"
  | .object ((key, value) :: members) =>
      (appendMembers (append ((appendString (out.push '\x7b') key).push ':')
        value) members).push '\x7d'

def appendItems (out : String) : List Json → String
  | [] => out
  | item :: items => appendItems (append (out.push ',') item) items

def appendMembers (out : String) : List (String × Json) → String
  | [] => out
  | (key, value) :: members =>
      appendMembers (append ((appendString (out.push ',') key).push ':') value)
        members

end

/-- The text of a value. -/
def text (value : Json) : String :=
  append "" value

end RdfTemplates.Json
