import MixedScript.Text.Chars

/-!
Lines of a source: cutting them off, their indentation, and tabs that count as spaces at their start.
-/

namespace MixedScript.Markdown

/-- The first line of a text, without the line feed that ends it. -/
def firstLine (cs : Chars) : Chars :=
  cs.takeWhile (· != '\n')

/-- What follows the first line of a text and the line feed that ends it. -/
def afterLine (cs : Chars) : Chars :=
  (cs.dropWhile (· != '\n')).drop 1

/-- The first line of a text with the line feed that ends it, if there is one. -/
def firstLineWithEnd (cs : Chars) : Chars :=
  cs.take (cs.length - (afterLine cs).length)

/-- The number of spaces at the start of a text. -/
def indentation (cs : Chars) : Nat :=
  (cs.takeWhile (· == ' ')).length

/-- A text without up to `width` spaces at its start. -/
def dropIndent (width : Nat) (cs : Chars) : Chars :=
  cs.drop (min width (indentation cs))

/-- What follows an indentation of at most `width` spaces; nothing if there are more. -/
def withinIndent? (width : Nat) (cs : Chars) : Option Chars :=
  if indentation cs ≤ width then some (cs.drop (indentation cs)) else none

/-- Whether a character may stand in a line that counts as empty. -/
def isLineBlank (c : Char) : Bool :=
  c == ' ' || c == '\t' || c == '\x0b' || c == '\x0c'

/-- Whether a text starts with an empty line that a line feed ends. -/
def startsBlank (cs : Chars) : Bool :=
  (cs.dropWhile isLineBlank).head? == some '\n'

/-- A text without the empty lines at its start. -/
def dropBlankLines : Nat → Chars → Chars
  | 0, cs => cs
  | fuel + 1, cs => if startsBlank cs then dropBlankLines fuel (afterLine cs) else cs

/-- A function applied to every line of a text. -/
def mapLines (f : Chars → Chars) (cs : Chars) : Chars :=
  Chars.join ['\n'] ((Chars.lines cs).map f)

/-- A line that starts at a column, with each tab among the blanks at its start as the spaces to the next
multiple of four. -/
def expandIndent (column : Nat) : Chars → Chars
  | ' ' :: rest => ' ' :: expandIndent (column + 1) rest
  | '\t' :: rest =>
    let width := 4 - column % 4
    List.replicate width ' ' ++ expandIndent (column + width) rest
  | cs => cs

/-- A line whose first tab, if at most three spaces stand before it, fills up to a column. -/
def tabToColumn (column : Nat) (line : Chars) : Chars :=
  let spaces := indentation line
  if spaces ≤ 3 then
    match line.drop spaces with
    | '\t' :: rest => List.replicate (max spaces column) ' ' ++ rest
    | _ => line
  else line

/-- A line whose first tab, if at most three spaces stand before it, is four spaces. -/
def tabToSpaces (line : Chars) : Chars :=
  let spaces := indentation line
  if spaces ≤ 3 then
    match line.drop spaces with
    | '\t' :: rest => List.replicate (spaces + 4) ' ' ++ rest
    | _ => line
  else line

/-- A text without all but the first of the line feeds, and whatever blank stands between them, at its
end. -/
def dropBlankEnd (cs : Chars) : Chars :=
  let kept := Chars.stripEnd cs
  let blank := cs.drop kept.length
  match blank.dropWhile (· != '\n') with
  | [] => cs
  | _ :: _ => kept ++ blank.takeWhile (· != '\n') ++ ['\n']

/-- A text without the line feeds at either end. -/
def stripLineFeeds (cs : Chars) : Chars :=
  Chars.trim (· == '\n') cs

end MixedScript.Markdown
