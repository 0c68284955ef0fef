import MixedScript.Error
import MixedScript.Text.Chars

/-!
Places in a text, counted in characters, lines and columns, and the characters that matter to the layout of
a document.
-/

namespace MixedScript.Yaml

/-- A place in a text: what follows it, and how far it is from the start. -/
structure Cursor where
  /-- The text from here on. -/
  rest : Chars
  /-- The number of characters before it. -/
  index : Nat := 0
  /-- The number of lines before it. -/
  line : Nat := 0
  /-- The number of characters before it on its line. -/
  column : Nat := 0
  deriving Repr

/-- Whether a character ends a line. -/
def isLineEnd (c : Char) : Bool :=
  c == '\n' || c == '\r' || c == '\u0085' || c == '\u2028' || c == '\u2029'

/-- Whether a character ends a line, or the text ends. -/
def endsLine (c : Option Char) : Bool :=
  (c.map isLineEnd).getD true

/-- Whether a character is a space, a tab or the end of a line, or the text ends. -/
def endsWord (c : Option Char) : Bool :=
  (c.map (fun c => isLineEnd c || Text.isInlineBlank c)).getD true

/-- Whether a character follows that ends a word, and what stands before it is one of the marks between
documents. -/
def isDocumentMark (cs : Chars) : Bool :=
  (cs.take 3 == ['-', '-', '-'] || cs.take 3 == ['.', '.', '.']) && endsWord (cs.drop 3).head?

namespace Cursor

/-- The next character. -/
def peek? (c : Cursor) : Option Char :=
  c.rest.head?

/-- The character after the next one. -/
def second? (c : Cursor) : Option Char :=
  (c.rest.drop 1).head?

/-- The place after the next character. -/
def step (c : Cursor) : Cursor :=
  match c.rest with
  | [] => c
  | x :: rest =>
    if isLineEnd x && !(x == '\r' && rest.head? == some '\n') then ⟨rest, c.index + 1, c.line + 1, 0⟩
    else ⟨rest, c.index + 1, c.line, if x == '\uFEFF' then c.column else c.column + 1⟩

/-- The place after some characters. -/
def skip (n : Nat) (c : Cursor) : Cursor :=
  match n with
  | 0 => c
  | n + 1 => skip n c.step

/-- The characters from a place on that satisfy `p`, and the place after them. -/
def span (p : Char → Bool) (c : Cursor) : Chars × Cursor :=
  let cs := c.rest.takeWhile p
  (cs, c.skip cs.length)

/-- The end of a line at a place as the text that stands for it, and the place after it. -/
def lineBreak (c : Cursor) : Chars × Cursor :=
  match c.rest with
  | '\r' :: '\n' :: _ => (['\n'], c.skip 2)
  | x :: _ =>
    if x == '\r' || x == '\n' || x == '\u0085' then (['\n'], c.step)
    else if isLineEnd x then ([x], c.step)
    else ([], c)
  | [] => ([], c)

end Cursor

end MixedScript.Yaml
