import MixedScript.Document.Node
import MixedScript.Text.Chars

/-!
Laying out blocks: indenting what continues a block, quoting lines, rows of tables and markers of lists.
-/

namespace MixedScript.Markdown

/-- The lines of a text after the first, indented; empty ones stay empty. -/
def indentContinuation (indent cs : Chars) : Chars :=
  match Chars.lines cs with
  | [] => []
  | first :: rest =>
    Chars.join ['\n'] (first :: rest.map (fun line => if line.isEmpty then [] else indent ++ line))

/-- The lines of a text behind quotation marks. -/
def quoteLines (cs : Chars) : Chars :=
  Chars.join ['\n'] ((Chars.lines cs).map (fun line => if line.isEmpty then ['>'] else '>' :: ' ' :: line))

/-- A text on one line, without blank characters at its ends. -/
def onOneLine (cs : Chars) : Chars :=
  Chars.strip (Chars.replaceChar '\n' [' '] cs)

/-- The text between the cells of a row. -/
def cellSeparator : Chars := [' ', '|', ' ']

/-- A row of cells between pipes. -/
def tableLine (cells : List Chars) : Chars :=
  '|' :: ' ' :: Chars.join cellSeparator cells ++ [' ', '|']

/-- Cells filled up with empty ones to a number of columns. -/
def fillCells (columns : Nat) (cells : List Chars) : List Chars :=
  cells ++ List.replicate (columns - cells.length) []

/-- The cell that states the alignment of a column. -/
def alignmentCell : Option Alignment → Chars
  | some .center => ":---:".toList
  | some .right => "---:".toList
  | some .left => ":---".toList
  | none => "---".toList

/-- The row that states the alignments of columns. -/
def alignmentLine (columns : Nat) (alignments : List (Option Alignment)) : Chars :=
  tableLine ((List.range columns).map (fun j => alignmentCell (alignments[j]?.getD none)))

/-- The lines of a table: each row, and the alignments after the first. -/
def tableLines (columns : Nat) (alignments : List (Option Alignment)) : List (List Chars) → List Chars
  | [] => []
  | first :: rest =>
    tableLine (fillCells columns first) :: alignmentLine columns alignments ::
      rest.map (fun cells => tableLine (fillCells columns cells))

/-- The marker of a numbered item; a delimiter of the source is kept if it is one. -/
def numberMarker (number : Int) (bullet : Option Chars) : Chars :=
  Chars.ofInt number ++ (if bullet == some [')'] then [')'] else ['.']) ++ [' ']

/-- The checkbox of an item. -/
def checkbox : Option TaskState → Chars
  | none => []
  | some .checked => "[x] ".toList
  | some .unchecked => "[ ] ".toList

/-- An item of a list: its marker, its checkbox and its content, continued below at an indentation. -/
def itemText (marker indent : Chars) (task : Option TaskState) (content : Chars) : Chars :=
  let marker := marker ++ checkbox task
  if content.isEmpty then Chars.stripEnd marker else marker ++ indentContinuation indent content

/-- A block, and whether it is the definition of a reference. -/
structure BlockText where
  /-- The block as text. -/
  text : Chars
  /-- Whether it defines a reference. -/
  isDefinition : Bool
  deriving DecidableEq, Repr

/-- Blocks one after the other. Definitions of references stand on adjacent lines; any other two blocks have
the separator between them. -/
def joinBlocks (separator : Chars) : List BlockText → Chars
  | [] => []
  | [b] => b.text
  | a :: b :: rest =>
    a.text ++ (if a.isDefinition && b.isDefinition then ['\n'] else separator) ++ joinBlocks separator (b :: rest)

end MixedScript.Markdown
