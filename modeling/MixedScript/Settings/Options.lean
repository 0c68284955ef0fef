/-!
Options of the three stages of formatting: reading a document, spacing it and writing it.
-/

namespace MixedScript

/-- Which extensions of the markup are read. -/
structure ReaderOptions where
  /-- Pipe tables. -/
  tables : Bool := true
  /-- Footnote references and definitions. -/
  footnotes : Bool := true
  /-- Math in lines and blocks. -/
  math : Bool := true
  /-- Checkboxes of list items. -/
  taskLists : Bool := true
  /-- Deleted text. -/
  strikethrough : Bool := true
  /-- Front matter at the start of the document. -/
  frontMatter : Bool := true
  deriving DecidableEq, Repr

/-- Which whole runs are tidied; boundaries between nodes always are. -/
structure SpacingOptions where
  /-- Tidy the gaps inside runs of text. -/
  text : Bool := true
  /-- Tidy the whitespace of math source. -/
  math : Bool := true
  deriving DecidableEq, Repr

/-- A character that delimits emphasis. -/
inductive EmphasisMark where
  | star | underscore
  deriving DecidableEq, Repr

/-- The character of an emphasis mark. -/
def EmphasisMark.char : EmphasisMark → Char
  | star => '*'
  | underscore => '_'

/-- The mark that a character is. -/
def EmphasisMark.ofChar? : Char → Option EmphasisMark
  | '*' => some star
  | '_' => some underscore
  | _ => none

/-- A character that fences code. -/
inductive FenceMark where
  | backtick | tilde
  deriving DecidableEq, Repr

/-- The character of a fence. -/
def FenceMark.char : FenceMark → Char
  | backtick => '\x60'
  | tilde => '~'

/-- The fence that a character is for. -/
def FenceMark.ofChar? (c : Char) : Option FenceMark :=
  if c = '\x60' then some backtick else if c = '~' then some tilde else none

/-- A character that starts an item of a list without numbers. -/
inductive Bullet where
  | dash | star | plus
  deriving DecidableEq, Repr

/-- The character of a bullet. -/
def Bullet.char : Bullet → Char
  | dash => '-'
  | star => '*'
  | plus => '+'

/-- The bullet that a character is. -/
def Bullet.ofChar? : Char → Option Bullet
  | '-' => some dash
  | '*' => some star
  | '+' => some plus
  | _ => none

/-- How a document is written. -/
structure WriterOptions where
  /-- Escape characters that would be read as markup. -/
  escape : Bool := true
  /-- The mark that is tried first for emphasis. -/
  emphasis : EmphasisMark := .star
  /-- The bullets of nested lists, from the outside. -/
  bullets : List Bullet := [.dash]
  /-- The least indentation of what continues an item of a list. -/
  indentWidth : Nat := 2
  /-- The character of code fences. -/
  fence : FenceMark := .backtick
  /-- The least length of a code fence. -/
  fenceMin : Nat := 3
  /-- Write front matter back. -/
  frontMatter : Bool := true
  /-- There is a bullet to write. -/
  bullets_ne : bullets ≠ [] := by decide
  /-- An item is indented by at least one column. -/
  indentWidth_pos : 1 ≤ indentWidth := by decide
  /-- A fence has at least three characters. -/
  fenceMin_le : 3 ≤ fenceMin := by decide
  deriving DecidableEq, Repr

/-- Options of all stages. -/
structure FormatOptions where
  /-- How the source is read. -/
  reader : ReaderOptions := {}
  /-- How the document is written. -/
  writer : WriterOptions := {}
  /-- What is tidied. -/
  spacing : SpacingOptions := {}
  deriving DecidableEq, Repr

end MixedScript
