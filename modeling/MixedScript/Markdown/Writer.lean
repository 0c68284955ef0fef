import MixedScript.Document.Leaf
import MixedScript.Error
import MixedScript.Markdown.Writer.Block
import MixedScript.Markdown.Writer.Delimiter
import MixedScript.Markdown.Writer.Destination
import MixedScript.Markdown.Writer.Escape
import MixedScript.Markdown.Writer.Verbatim
import MixedScript.Settings.Draft
import MixedScript.Yaml.Printer

/-!
Writing a document tree as text. Blocks are written first and then joined and indented by what holds them,
so that indentation does not depend on how deep a block sits. Bullets, delimiters, info strings, labels and
front matter are written back as the source had them.
-/

namespace MixedScript.Markdown

/-- Why a tree cannot be written. -/
inductive WriteFault where
  /-- A leaf without content. -/
  | unset (kind : Kind)
  /-- A node where another kind of node belongs. -/
  | misplaced (kind : Kind)
  deriving DecidableEq, Repr

/-- A fault as an error for the user. -/
def WriteFault.toError (_ : WriteFault) : Error :=
  .rendering "Failed to render markdown" (some "rendering")

/-- What writing a node depends on. -/
structure Context where
  /-- How the document is written. -/
  options : WriterOptions
  /-- The number of lists around the node. -/
  depth : Nat
  /-- Whether the node stands in a cell of a table. -/
  inTable : Bool

namespace Context

/-- The context at the root of a document. -/
def root (options : WriterOptions) : Context := ⟨options, 0, false⟩

/-- The context inside one more list. -/
def deeper (c : Context) : Context := { c with depth := c.depth + 1 }

/-- The bullet for the current depth; outside of lists it is the last one. -/
def bullet (c : Context) : Bullet :=
  let bullets := c.options.bullets
  (bullets[(c.depth + bullets.length - 1) % bullets.length]?).getD .dash

/-- The marker of an item without a number; a bullet of the source is kept if it is one. -/
def bulletMarker (c : Context) (source : Option Chars) : Chars :=
  match source.bind (fun cs => if cs.length = 1 then cs.head?.bind Bullet.ofChar? else none) with
  | some b => [b.char, ' ']
  | none => [c.bullet.char, ' ']

/-- What continues an item below its marker is indented by the width of the marker at least. -/
def continuation (c : Context) (marker : Chars) : Chars :=
  List.replicate (max marker.length c.options.indentWidth) ' '

/-- A run of text, escaped if the options ask for it. -/
def text (c : Context) (cs : Chars) : Chars :=
  if c.options.escape then escapeText c.inTable cs else cs

/-- A paragraph, its lines kept from opening blocks if the options ask for it. -/
def paragraph (c : Context) (cs : Chars) : Chars :=
  if c.options.escape then escapeLineStarts cs else cs

end Context

/-- Whether a value under a key of metadata counts as true. -/
def hasMark (m : Mapping) (key : String) : Bool :=
  ((m.at? key).map Value.truthy).getD false

/-- The front matter of a document: the raw block if there is one, else its data. -/
def frontMatter (m : Mapping) : Chars :=
  let data := match m.at? "frontmatter_data" with
    | some v => if v.truthy then
        "---\n".toList ++ Chars.stripEnd (Yaml.print v) ++ "\n---".toList
      else []
    | none => []
  match m.at? "frontmatter" with
  | some (.str raw) =>
    if (Chars.strip raw.toList).isEmpty then data
    else Chars.dropEndWhile (fun c => c == '\r' || c == '\n') raw.toList
  | _ => data

/-- The info string of a block of code: the one of the source, or the language. -/
def infoString (m : Mapping) (language : Option Chars) : Chars :=
  match m.at? "info_string" with
  | some v => if v.truthy then (Settings.Draft.shown v).toList else language.getD []
  | none => language.getD []

/-- A reference in brackets after its text, which stands alone when it is the label itself. -/
def referenceText (style : ReferenceStyle) (text identifier : Chars) (label : Option Chars) (isLabel : Chars → Bool) :
    Chars :=
  let label := match label with
    | none | some [] => identifier
    | some l => l
  match style with
  | .collapsed => '[' :: text ++ "][]".toList
  | .shortcut => if isLabel label then '[' :: text ++ [']'] else '[' :: text ++ ']' :: '[' :: label ++ [']']
  | .full => '[' :: text ++ ']' :: '[' :: label ++ [']']

/-- A leaf whose content is not looked at. -/
def inertText (options : WriterOptions) (m : Mapping) : Inert → Except WriteFault Chars
  | .codeBlock content language =>
    .ok (if hasMark m "indented" then indentedCode content
      else fencedCode options.fence options.fenceMin (infoString m language) content)
  | .thematicBreak => .ok ['-', '-', '-']
  | .htmlBlock content => .ok (Chars.dropEndWhile (· == '\n') content)
  | .htmlInline content => .ok content
  | .lineBreak soft => .ok (if soft then ['\n'] else [' ', ' ', '\n'])
  | .image url alt title =>
    .ok ("![".toList ++ escapeBrackets alt ++ "](".toList ++ destination url ++ titleSuffix title ++ [')'])
  | .imageReference identifier alt label style =>
    .ok ('!' :: referenceText style (escapeBrackets alt) identifier label (fun l => alt == l))
  | .definition identifier url title label =>
    let label := match label with
      | none | some [] => identifier
      | some l => l
    .ok ('[' :: label ++ "]: ".toList ++ destination url ++ titleSuffix title)
  | .footnoteReference identifier => .ok ("[^".toList ++ identifier ++ [']'])
  | .unset kind => .error (.unset kind)

/-- Whether a node is a whitespace-only run of text, which is left out between blocks. -/
def isBlankText : Node → Bool
  | .text s _ => (Chars.strip s).isEmpty
  | _ => false

/-- Whether a node is a leaf whose text is empty. In a row it is an empty cell. -/
def isEmptyLeaf : Node → Bool
  | .text s _ | .math _ s _ | .code s _ => s.isEmpty
  | .inert (.codeBlock s _) _ | .inert (.htmlBlock s) _ | .inert (.htmlInline s) _ => s.isEmpty
  | _ => false

/-- Whether a node is the definition of a reference. -/
def isDefinition : Node → Bool
  | .inert (.definition ..) _ => true
  | _ => false

/-- The text of a note, continued below its label. -/
def noteText (identifier content : Chars) : Chars :=
  let label := "[^".toList ++ identifier ++ "]:".toList
  if content.isEmpty then label else label ++ ' ' :: indentContinuation "    ".toList content

mutual

/-- Whether cells of a table are written along with a node. -/
def holdsCells : Node → Bool
  | .group (.table ..) rows _ => !rows.isEmpty
  | .group (.tableRow _) _ _ => true
  | .group _ cs _ => anyHoldsCells cs
  | .flow (.link ..) cs m => !hasMark m "autolink" && anyHoldsCells cs
  | .flow _ cs _ => anyHoldsCells cs
  | .note _ cs _ => anyHoldsCells cs
  | _ => false

/-- Whether cells of a table are written along with any of several nodes. -/
def anyHoldsCells : List Node → Bool
  | [] => false
  | n :: rest => holdsCells n || anyHoldsCells rest

end

/-- The context for what follows a node: after cells of a table the rest is no longer written as if it
stood in one. -/
def Context.after (c : Context) (n : Node) : Context :=
  if c.inTable && holdsCells n then { c with inTable := false } else c

mutual

/-- Writes a node as a piece of a line. -/
def writePiece (c : Context) : Node → Except WriteFault Piece
  | .group .document cs m => do
    let front := if c.options.frontMatter then frontMatter m else []
    let body ← writeBlocks c cs
    let body := joinBlocks ['\n', '\n'] body
    return .plain (Chars.join ['\n', '\n'] ([front, body].filter (fun cs => !cs.isEmpty)))
  | .group .blockQuote cs _ => do
    let body ← writeBlocks c cs
    return .plain (quoteLines (joinBlocks ['\n', '\n'] body))
  | .group (.list ordered start tight bullet) cs _ => do
    let items ← writeItems c.deeper ordered start tight bullet cs
    return .plain (Chars.join (if tight then ['\n'] else ['\n', '\n']) items)
  | .group (.table _ alignments) cs _ => do
    let rows ← writeRows c cs
    let columns := rows.foldl (fun n cells => max n cells.length) 0
    return .plain (Chars.join ['\n'] (tableLines columns alignments rows))
  | .group (.tableRow _) cs _ => do
    let cells ← writeCells { c with inTable := true } cs
    return .plain (tableLine cells)
  | .flow form cs m => do
    match form with
    | .listItem task =>
      let body ← writeBlocks c cs
      let marker := c.bulletMarker none
      return .plain (itemText marker (c.continuation marker) task (joinBlocks ['\n'] body))
    | .link url title =>
      if hasMark m "autolink" then return .plain ('<' :: Node.plainTextOf [] cs ++ ['>'])
      else
        let pieces ← writePieces c cs
        return .plain ('[' :: assemble pieces ++ "](".toList ++ destination url ++ titleSuffix title ++ [')'])
    | .linkReference identifier label style =>
      let pieces ← writePieces c cs
      let text := assemble pieces
      return .plain (referenceText style text identifier label (fun l => text == l))
    | .heading level =>
      let pieces ← writePieces c cs
      let text := onOneLine (assemble pieces)
      let hashes := List.replicate level.1 '#'
      return .plain (if text.isEmpty then hashes else hashes ++ ' ' :: text)
    | .paragraph =>
      let pieces ← writePieces c cs
      return .plain (c.paragraph (assemble pieces))
    | .tableCell _ =>
      let pieces ← writePieces c cs
      return .plain (assemble pieces)
    | .emphasis =>
      let pieces ← writePieces c cs
      return .ofContent (.emphasis c.options.emphasis false) (assemble pieces)
    | .strong =>
      let pieces ← writePieces c cs
      return .ofContent (.emphasis .star true) (assemble pieces)
    | .strikethrough =>
      let pieces ← writePieces c cs
      return .ofContent .deleted (assemble pieces)
  | .text s _ => return .plain (c.text s)
  | .math .inline s _ => return .plain (mathSpan s)
  | .math .block s m => return .plain (if hasMark m "inline" then displayMathSpan s else displayMathBlock s)
  | .code s _ => return .plain (codeSpan s)
  | .note identifier cs _ => do
    let body ← writeBlocks c cs
    return .plain (noteText identifier (joinBlocks ['\n', '\n'] body))
  | .inert leaf m => do
    let cs ← inertText c.options m leaf
    return .plain cs

/-- Writes nodes as the pieces of a line. -/
def writePieces (c : Context) : List Node → Except WriteFault (List Piece)
  | [] => .ok []
  | n :: rest => do
    let piece ← writePiece c n
    let later ← writePieces (c.after n) rest
    return piece :: later

/-- Writes nodes as blocks, leaving out what holds nothing. -/
def writeBlocks (c : Context) : List Node → Except WriteFault (List BlockText)
  | [] => .ok []
  | n :: rest => do
    if isBlankText n then writeBlocks c rest
    else
      let piece ← writePiece c n
      let text := assemble [piece]
      let later ← writeBlocks (c.after n) rest
      return if text.isEmpty then later else ⟨text, isDefinition n⟩ :: later

/-- Writes the items of a list, numbering them on. -/
def writeItems (c : Context) (ordered : Bool) (number : Int) (tight : Bool) (bullet : Option Chars) :
    List Node → Except WriteFault (List Chars)
  | [] => .ok []
  | .flow (.listItem task) cs m :: rest => do
    let marker := if ordered then numberMarker number bullet else c.bulletMarker bullet
    let body ← writeBlocks c cs
    let item := itemText marker (c.continuation marker) task
      (joinBlocks (if tight then ['\n'] else ['\n', '\n']) body)
    let later ← writeItems (c.after (.flow (.listItem task) cs m)) ordered (number + 1) tight bullet rest
    return item :: later
  | n :: _ => .error (.misplaced n.kind)

/-- Writes the rows of a table, each as the texts of its cells. -/
def writeRows (c : Context) : List Node → Except WriteFault (List (List Chars))
  | [] => .ok []
  | .group (.tableRow _) cs _ :: rest => do
    let cells ← writeCells { c with inTable := true } cs
    let later ← writeRows c rest
    return cells :: later
  | n :: _ => .error (.misplaced n.kind)

/-- Writes the cells of a row. -/
def writeCells (c : Context) : List Node → Except WriteFault (List Chars)
  | [] => .ok []
  | n :: rest => do
    let pieces ← match n with
      | .flow (.listItem _) _ _ => .error (.misplaced .listItem)
      | .flow _ cs _ => writePieces c cs
      | .note _ cs _ => writePieces c cs
      | n => if isEmptyLeaf n then .ok [] else .error (.misplaced n.kind)
    let later ← writeCells (c.after n) rest
    return onOneLine (assemble pieces) :: later

end

/-- A node as text, in a context. -/
def writeNode (c : Context) (n : Node) : Except WriteFault Chars := do
  return assemble [← writePiece c n]

/-- A text with line feeds as its line ends and exactly one of them at its end; nothing for a blank text. -/
def cleanUp (cs : Chars) : Chars :=
  match Chars.stripEnd (Chars.unifyLineEnds cs) with
  | [] => []
  | kept => kept ++ ['\n']

/-- A document as text. -/
def write (options : WriterOptions) (document : Node) : Except WriteFault Chars := do
  return cleanUp (← writeNode (.root options) document)

end MixedScript.Markdown
