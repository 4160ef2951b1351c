import RdfTemplates.CodePoints.DefaultIgnorable
import RdfTemplates.CodePoints.ExtendingMarks
import RdfTemplates.CodePoints.Unprintable
import RdfTemplates.Context

/-!
# Summaries of contexts

One line of text that shows a context to people.  The stem of its labels is
quoted, so that each character of it can be told apart.
-/

namespace RdfTemplates.Context

/-- Whether a character shows as itself in a quoted text: it can be seen, and it
is not drawn onto the quote or the character before it. -/
def showsAsItself (char : Char) : Bool :=
  !CodePoints.unprintable.contains char &&
    !CodePoints.defaultIgnorable.contains char &&
    !CodePoints.extendingMarks.contains char

/-- How one character is written in a quoted text: quotes and backslashes after
a backslash, line ends and the like by a letter, and what does not show as
itself by its number. -/
def summaryChar (char : Char) : String :=
  match char with
  | '"' => "\\\""
  | '\\' => "\\\\"
  | '\n' => "\\n"
  | '\r' => "\\r"
  | '\t' => "\\t"
  | '\x00' => "\\0"
  | char =>
      if showsAsItself char then char.toString
      else "\\u\x7b" ++ String.ofList (Nat.toDigits 16 char.toNat) ++ "\x7d"

/-- A one-line summary for people. -/
def summary (context : Context) : String :=
  "ExpansionContext \x7b namespace: \"" ++
    String.join (context.labels.stem.toList.map summaryChar) ++
    "\", depth: " ++ toString context.depth ++
    ", max_depth: " ++ toString context.maxDepth ++
    ", check_types: " ++ toString context.checkTypes ++ " \x7d"

end RdfTemplates.Context
