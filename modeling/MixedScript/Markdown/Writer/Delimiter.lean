import MixedScript.Settings.Options
import MixedScript.Text.Alphanumeric
import MixedScript.Text.Chars

/-!
Emphasis delimiters. Whether a delimiter can open or close depends on the characters on its two sides, so a
delimited piece is placed only when its neighbours are known: with the first mark that works, or else with a
space kept outside of it.
-/

namespace MixedScript.Markdown

/-- The delimiter of a piece: emphasis of one or two marks, or the marks of deleted text. -/
inductive Delimiter where
  /-- One mark for emphasis, two for strong emphasis. -/
  | emphasis (mark : EmphasisMark) (strong : Bool)
  /-- The marks of deleted text. -/
  | deleted
  deriving DecidableEq, Repr

def EmphasisMark.other : EmphasisMark → EmphasisMark
  | .star => .underscore
  | .underscore => .star

/-- The text of marks of emphasis. -/
def marks (mark : EmphasisMark) (strong : Bool) : Chars :=
  if strong then [mark.char, mark.char] else [mark.char]

def Delimiter.text : Delimiter → Chars
  | emphasis mark strong => marks mark strong
  | deleted => ['~', '~']

/-- A character that is neither blank nor a letter or number. -/
def isPunctuationLike (c : Char) : Bool :=
  !Text.isBlank c && !Text.isAlphanumeric c

/-- Whether marks between two characters can open emphasis. -/
def canOpen (previous first mark : Char) : Bool :=
  !(mark == '_' && Text.isAlphanumeric previous && Text.isAlphanumeric first) &&
    !Text.isBlank first &&
    !(isPunctuationLike first && !Text.isBlank previous && !isPunctuationLike previous)

/-- Whether marks between two characters can close emphasis. -/
def canClose (last following mark : Char) : Bool :=
  !(mark == '_' && Text.isAlphanumeric last && Text.isAlphanumeric following) &&
    !Text.isBlank last &&
    !(isPunctuationLike last && !Text.isBlank following && !isPunctuationLike following)

/-- A delimited piece of a line whose delimiters are still to be placed. Whitespace at its edges goes
outside the delimiters. -/
structure Delimited where
  /-- The delimiter that is tried first. -/
  delimiter : Delimiter
  /-- Whitespace before the delimiter. -/
  leading : Chars
  /-- The first character inside. -/
  first : Char
  /-- What follows it inside. -/
  more : Chars
  /-- Whitespace after the delimiter. -/
  trailing : Chars
  deriving DecidableEq, Repr

namespace Delimited

/-- What stands between the delimiters. -/
def content (d : Delimited) : Chars := d.first :: d.more

/-- The last character inside. -/
def last (d : Delimited) : Char := d.more.getLast?.getD d.first

/-- Whether a mark works between two characters. -/
def works (d : Delimited) (previous following : Char) (mark : EmphasisMark) : Bool :=
  mark.char != previous && mark.char != d.first && mark.char != d.last &&
    canOpen previous d.first mark.char && canClose d.last following mark.char

/-- The first of two marks that does not touch itself inside, or the first of them. -/
def fallback (d : Delimited) (mark : EmphasisMark) : EmphasisMark :=
  if mark.char != d.first && mark.char != d.last then mark
  else if (EmphasisMark.other mark).char != d.first && (EmphasisMark.other mark).char != d.last then
    EmphasisMark.other mark
  else mark

/-- The piece between given marks, with its whitespace outside. -/
def wrap (d : Delimited) (leading delimiter trailing : Chars) : Chars :=
  leading ++ delimiter ++ d.content ++ delimiter ++ trailing

/-- The piece with its delimiters placed between two characters; the edges of the line count as spaces. -/
def place (d : Delimited) (previous following : Option Char) : Chars :=
  match d.delimiter with
  | .deleted => d.wrap d.leading d.delimiter.text d.trailing
  | .emphasis mark strong =>
    let p := previous.getD ' '
    let f := following.getD ' '
    if d.works p f mark then d.wrap d.leading (marks mark strong) d.trailing
    else if d.works p f (EmphasisMark.other mark) then
      d.wrap d.leading (marks (EmphasisMark.other mark) strong) d.trailing
    else
      let m := d.fallback mark
      let leading := if p == m.char || !canOpen p d.first m.char then d.leading ++ [' '] else d.leading
      let trailing := if !canClose d.last f m.char then ' ' :: d.trailing else d.trailing
      d.wrap leading (marks m strong) trailing

end Delimited

/-- A piece of a line: a finished text, or one whose delimiters are still to be placed. -/
inductive Piece where
  /-- A finished text. -/
  | plain (cs : Chars)
  /-- A text that waits for its delimiters. -/
  | delimited (d : Delimited)
  deriving DecidableEq, Repr

/-- The first character that a piece will have, as far as that is known before it is placed. -/
def Piece.firstChar? : Piece → Option Char
  | plain cs => cs.head?
  | delimited d => (d.leading ++ d.delimiter.text).head?

/-- The first character of several pieces. -/
def firstCharOf? (pieces : List Piece) : Option Char :=
  pieces.findSome? Piece.firstChar?

/-- Splits the text inside delimiters into the whitespace at its edges and the rest; nothing but whitespace
is written without delimiters. -/
def Piece.ofContent (delimiter : Delimiter) (cs : Chars) : Piece :=
  match Chars.trim Text.isInlineBlank cs with
  | [] => plain cs
  | first :: more =>
    delimited ⟨delimiter, cs.takeWhile Text.isInlineBlank, first, more, Chars.takeEndWhile Text.isInlineBlank cs⟩

/-- Places pieces one after the other, given the last character that was written. -/
def assembleFrom (last : Option Char) : List Piece → Chars
  | [] => []
  | piece :: rest =>
    let cs := match piece with
      | .plain cs => cs
      | .delimited d =>
        d.place (d.leading.getLast? <|> last) (d.trailing.head? <|> firstCharOf? rest)
    cs ++ assembleFrom (cs.getLast? <|> last) rest

/-- A line of pieces with all delimiters placed. -/
def assemble (pieces : List Piece) : Chars :=
  assembleFrom none pieces

end MixedScript.Markdown
