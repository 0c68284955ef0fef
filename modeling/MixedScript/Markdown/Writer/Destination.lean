import MixedScript.Text.Chars

/-!
Link destinations and titles as they are written.
-/

namespace MixedScript.Markdown

/-- Whether a destination has to stand in angle brackets: it is empty, holds whitespace or angle brackets,
or has more of one parenthesis than of the other. -/
def needsAngles (url : Chars) : Bool :=
  url.isEmpty || url.any (fun c => Text.isBlank c || c == '<' || c == '>') || url.count '(' != url.count ')'

/-- A link destination. -/
def destination (url : Chars) : Chars :=
  if needsAngles url then '<' :: url ++ ['>'] else url

/-- A character of a title with a backslash before it where one is needed. -/
def escapeTitleChar (c : Char) : Chars :=
  if c == '\\' || c == '\x22' then ['\\', c] else [c]

/-- A title after a space, in double quotes; nothing for an empty title. -/
def titleSuffix (title : Option Chars) : Chars :=
  match title with
  | none | some [] => []
  | some cs => ' ' :: '\x22' :: cs.flatMap escapeTitleChar ++ ['\x22']

/-- The text that stands for an image, with its brackets escaped. -/
def escapeBrackets (cs : Chars) : Chars :=
  cs.flatMap (fun c => if c == '[' || c == ']' then ['\\', c] else [c])

end MixedScript.Markdown
