import MixedScript.Text.Alphanumeric
import MixedScript.Text.Chars
import MixedScript.Text.DecimalDigit

/-!
Escaping text, so that none of its characters is read as markup: characters that mean something wherever
they stand, and characters that mean something only at the start of a line.
-/

namespace MixedScript.Markdown

/-- Characters that are escaped wherever they stand. -/
def alwaysEscaped : List Char :=
  ['\\', '\x60', '*', '\x7b', '\x7d', '[', ']', '$']

/-- Whether a character has to be escaped, given the one before it in its run and the one after it. An
underscore inside a word is left alone. -/
def mustEscape (inTable : Bool) (before : Option Char) (c : Char) (after : Option Char) : Bool :=
  alwaysEscaped.contains c ||
    (c == '#' && before.isNone) ||
    (c == '_' && !((before.map Text.isAlphanumeric).getD false && (after.map Text.isAlphanumeric).getD false)) ||
    (c == '|' && inTable)

/-- The rest of a run with its markup escaped, given the character before it. -/
def escapeFrom (inTable : Bool) (before : Option Char) : Chars → Chars
  | [] => []
  | c :: rest =>
    if mustEscape inTable before c rest.head? then '\\' :: c :: escapeFrom inTable (some c) rest
    else c :: escapeFrom inTable (some c) rest

/-- A run of text with its markup escaped. -/
def escapeText (inTable : Bool) (cs : Chars) : Chars :=
  escapeFrom inTable none cs

/-- Whether nothing but spaces and tabs is left of a line. -/
def isRestBlank (cs : Chars) : Bool :=
  cs.all Text.isInlineBlank

/-- Whether a line starts with a run of one character and ends after it. -/
def isRunLine (c : Char) (cs : Chars) : Bool :=
  cs.head? == some c && isRestBlank (cs.dropWhile (· == c))

/-- The digits of a list number at the start of a line that a delimiter and a blank follow. -/
def listNumber? (cs : Chars) : Option Chars :=
  let ds := cs.takeWhile Text.isDecimalDigit
  match cs.drop ds.length with
  | d :: rest =>
    if !ds.isEmpty && ds.length ≤ 9 && (d == '.' || d == ')') && (rest.head?.map Text.isInlineBlank).getD true then
      some ds
    else none
  | [] => none

/-- Whether a line without its indentation starts with the marker of a list, a quotation, a fence or the
underline of a heading. -/
def opensBlock (cs : Chars) : Bool :=
  match cs with
  | [] => false
  | c :: rest =>
    ((c == '-' || c == '+') && (rest.head?.map Text.isInlineBlank).getD true) ||
      isRunLine '-' cs || c == '>' || (Chars.after? ['~', '~', '~'] cs).isSome || isRunLine '=' cs

/-- One line with a backslash before what would open a block at its start. -/
def escapeLineStart (line : Chars) : Chars :=
  let indent := line.takeWhile Text.isInlineBlank
  let body := line.drop indent.length
  match listNumber? body with
  | some ds => indent ++ ds ++ '\\' :: body.drop ds.length
  | none => if opensBlock body then indent ++ '\\' :: body else line

/-- A text with every line kept from opening a block. -/
def escapeLineStarts (cs : Chars) : Chars :=
  Chars.join ['\n'] ((Chars.lines cs).map escapeLineStart)

end MixedScript.Markdown
