import RdfTemplates.Term

/-!
# Text of terms

Terms are written in N-Triples syntax, with three additions: `?x` for a
variable, `( a b )` for a list and `ottr:none` for the absent value.
-/

namespace RdfTemplates

/-- How one character is written inside a quoted lexical form: a backslash, a
quote and the two line ends are escaped, everything else stands for itself. -/
def escapeChar : Char → List Char
  | '\\' => ['\\', '\\']
  | '"' => ['\\', '"']
  | '\n' => ['\\', 'n']
  | '\r' => ['\\', 'r']
  | char => [char]

def escapeChars (chars : List Char) : List Char :=
  chars.flatMap escapeChar

/-- The lexical form as it stands between the quotes of a literal. -/
def escape (text : String) : String :=
  String.ofList (escapeChars text.toList)

/-- A literal is its quoted lexical form, then the language tag if there is one
and the datatype otherwise. -/
def Literal.text (literal : Literal) : String :=
  "\"" ++ escape literal.value ++ "\"" ++
    match literal.language with
    | some tag => "@" ++ tag
    | none => "^^<" ++ literal.datatype ++ ">"

namespace Term

mutual

def text : Term → String
  | .iri name => "<" ++ name ++ ">"
  | .literal value => value.text
  | .blank label => "_:" ++ label
  | .var name => "?" ++ name
  | .list items => "(" ++ listText items ++ " )"
  | .none => "ottr:none"

/-- The items of a list, each after a blank. -/
def listText : List Term → String
  | [] => ""
  | item :: items => " " ++ item.text ++ listText items

end

end Term

/-- Arguments in parentheses, separated by commas. -/
def argumentsText (arguments : List Term) : String :=
  "(" ++ String.intercalate ", " (arguments.map Term.text) ++ ")"

end RdfTemplates
