import MixedScript.Markdown.Token
import MixedScript.Markdown.Url

/-!
The document tree of tokens. Tokens of an unknown type are left out, neighbouring runs of text become one,
and labels of notes are given back the form in which they were written.
-/

namespace MixedScript.Markdown

/-- Labels of notes as they were written, under their keys. -/
abbrev NoteLabels := List (Chars × Chars)

/-- The written label of a key, or the key itself. -/
def NoteLabels.written (labels : NoteLabels) (key : Chars) : Chars :=
  (labels.lookup key).getD key

/-- Metadata with one mark. -/
def mark (name : String) : Mapping :=
  [(.str name, .bool true)]

/-- Puts a node in front of others; a run of text grows into the one that follows it. -/
def consMerging (n : Node) (rest : List Node) : List Node :=
  match n, rest with
  | .text a m, .text b _ :: rest => .text (a ++ b) m :: rest
  | n, rest => n :: rest

/-- Whether a link is written by its destination alone: its only child is a text that encodes to it, with or
without the scheme of mail addresses. -/
def isAutolink (url : Chars) : List Token → Bool
  | [.leaf .text raw _] => url == encodeUrl raw || url == encodeUrl ("mailto:".toList ++ raw)
  | [.branch .text _ _] => url == [] || url == "mailto:".toList
  | _ => false

/-- The label of a reference, which is its key when none was written. -/
def referenceLabel (key : Chars) : Option Chars → Chars
  | none | some [] => key
  | some label => label

/-- The style of a reference: short when its text is its label. -/
def referenceStyle (label text : Chars) : ReferenceStyle :=
  if label == text then .shortcut else .full

def imageNode (alt : Chars) (a : Attributes) : Node :=
  match a.ref with
  | some key =>
    let label := referenceLabel key a.label
    .inert (.imageReference key alt (some label) (referenceStyle label alt)) []
  | none => .inert (.image (restoreUrl a.url) alt a.title) []

/-- The node of a link with its text. -/
def linkNode (children : List Token) (content : List Node) (a : Attributes) : Node :=
  match a.ref with
  | some key =>
    let label := referenceLabel key a.label
    .flow (.linkReference key (some label) (referenceStyle label (Token.plainTextOf children))) content []
  | none =>
    .flow (.link (restoreUrl a.url) a.title) content (if isAutolink a.url children then mark "autolink" else [])

mutual

/-- The node of a token in a line, if its type is known. -/
def inlineNode (labels : NoteLabels) : Token → Option Node
  | .leaf t raw a =>
    match t with
    | .text => some (.text raw [])
    | .strong => some (.flow .strong [] [])
    | .emphasis => some (.flow .emphasis [] [])
    | .strikethrough => some (.flow .strikethrough [] [])
    | .codeSpan => some (.code raw [])
    | .link => some (linkNode [] [] a)
    | .image => some (imageNode [] a)
    | .hardBreak => some (.inert (.lineBreak false) [])
    | .softBreak => some (.inert (.lineBreak true) [])
    | .inlineHtml => some (.inert (.htmlInline raw) [])
    | .inlineMath => some (.math .inline raw [])
    | .blockMath => some (.math .block raw (mark "inline"))
    | .footnoteReference => some (.inert (.footnoteReference (labels.written raw)) [])
    | _ => none
  | .branch t ts a =>
    match t with
    | .strong => some (.flow .strong (inlineNodes labels ts) [])
    | .emphasis => some (.flow .emphasis (inlineNodes labels ts) [])
    | .strikethrough => some (.flow .strikethrough (inlineNodes labels ts) [])
    | .link => some (linkNode ts (inlineNodes labels ts) a)
    | .image => some (imageNode (Token.plainTextOf ts) a)
    | .text => some (.text [] [])
    | .codeSpan => some (.code [] [])
    | .hardBreak => some (.inert (.lineBreak false) [])
    | .softBreak => some (.inert (.lineBreak true) [])
    | .inlineHtml => some (.inert (.htmlInline []) [])
    | .inlineMath => some (.math .inline [] [])
    | .blockMath => some (.math .block [] (mark "inline"))
    | .footnoteReference => some (.inert (.footnoteReference (labels.written [])) [])
    | _ => none

/-- The nodes of tokens in a line. -/
def inlineNodes (labels : NoteLabels) : List Token → List Node
  | [] => []
  | t :: rest =>
    match inlineNode labels t with
    | none => inlineNodes labels rest
    | some n => consMerging n (inlineNodes labels rest)

end

/-- The level of a heading, which is one when it is none of the six. -/
def headingLevel (a : Attributes) : HeadingLevel :=
  (a.level.bind HeadingLevel.ofInt?).getD ⟨1, by decide⟩

/-- The first word of an info string. -/
def firstWord (cs : Chars) : Chars :=
  (cs.dropWhile Text.isBlank).takeWhile (fun c => !Text.isBlank c)

/-- The node of a block of code, which keeps its info string. -/
def codeBlockNode (raw : Chars) (a : Attributes) : Node :=
  let info := Chars.strip (a.info.getD [])
  let infoMark : Mapping := if info.isEmpty then [] else [(.str "info_string", .str (String.ofList info))]
  .inert (.codeBlock raw (if info.isEmpty then none else some (firstWord info)))
    (infoMark ++ if a.indented then mark "indented" else [])

/-- The state of the checkbox of an item. -/
def taskState (t : TokenType) (a : Attributes) : Option TaskState :=
  match a.checked with
  | some true => some .checked
  | some false => some .unchecked
  | none => if t = .taskListItem then some .unchecked else none

def cellAlignment : Node → Option Alignment
  | .flow (.tableCell a) _ _ => a
  | _ => none

/-- The cells of a row. -/
def cellNodes (labels : NoteLabels) : List Token → List Node
  | [] => []
  | .branch .tableCell ts a :: rest =>
    .flow (.tableCell a.align) (inlineNodes labels ts) [] :: cellNodes labels rest
  | .leaf .tableCell _ a :: rest => .flow (.tableCell a.align) [] [] :: cellNodes labels rest
  | _ :: rest => cellNodes labels rest

/-- The rows below the header of a table. -/
def rowNodes (labels : NoteLabels) (rows : List Token) : List Node :=
  rows.map (fun row => .group (.tableRow false) (cellNodes labels row.children) [])

/-- A table as far as its sections have been read: the header, the rows and the alignments. -/
structure TableParts where
  header : Option Node
  rows : List Node
  /-- The alignments of the header. -/
  alignments : List (Option Alignment)

/-- A table with one more section. -/
def addSection (labels : NoteLabels) (parts : TableParts) (t : Token) : TableParts :=
  match t.type with
  | .tableHead =>
    let cells := cellNodes labels t.children
    { parts with header := some (.group (.tableRow true) cells []), alignments := cells.map cellAlignment }
  | .tableBody => { parts with rows := parts.rows ++ rowNodes labels t.children }
  | _ => parts

def tableNode (labels : NoteLabels) (sections : List Token) : Node :=
  let parts := sections.foldl (addSection labels) ⟨none, [], []⟩
  .group (.table parts.header.isSome parts.alignments) (parts.header.toList ++ parts.rows) []

mutual

/-- The nodes of a token between blocks. -/
def blockNode (labels : NoteLabels) : Token → List Node
  | .leaf t raw a =>
    match t with
    | .heading => [.flow (.heading (headingLevel a)) [] []]
    | .paragraph | .blockText => [.flow .paragraph [] []]
    | .blockCode => [codeBlockNode raw a]
    | .blockQuote => [.group .blockQuote [] []]
    | .list => [.group (.list a.ordered a.start a.tight a.bullet) [] []]
    | .table => [tableNode labels []]
    | .thematicBreak => [.inert .thematicBreak []]
    | .blockHtml => [.inert (.htmlBlock raw) []]
    | .blockMath => [.math .block raw []]
    | _ => []
  | .branch t ts a =>
    match t with
    | .heading => [.flow (.heading (headingLevel a)) (inlineNodes labels ts) []]
    | .paragraph | .blockText => [.flow .paragraph (inlineNodes labels ts) []]
    | .blockCode => [codeBlockNode [] a]
    | .blockQuote => [.group .blockQuote (blockNodes labels ts) []]
    | .list => [.group (.list a.ordered a.start a.tight a.bullet) (itemNodes labels ts) []]
    | .table => [tableNode labels ts]
    | .thematicBreak => [.inert .thematicBreak []]
    | .blockHtml => [.inert (.htmlBlock []) []]
    | .blockMath => [.math .block [] []]
    | .footnotes => noteNodes labels ts
    | _ => []

/-- The nodes of tokens between blocks. -/
def blockNodes (labels : NoteLabels) : List Token → List Node
  | [] => []
  | t :: rest => blockNode labels t ++ blockNodes labels rest

def itemNodes (labels : NoteLabels) : List Token → List Node
  | [] => []
  | .leaf t _ a :: rest =>
    if t = .listItem ∨ t = .taskListItem then
      .flow (.listItem (taskState t a)) [] [] :: itemNodes labels rest
    else itemNodes labels rest
  | .branch t ts a :: rest =>
    if t = .listItem ∨ t = .taskListItem then
      .flow (.listItem (taskState t a)) (blockNodes labels ts) [] :: itemNodes labels rest
    else itemNodes labels rest

/-- The notes of a document. -/
def noteNodes (labels : NoteLabels) : List Token → List Node
  | [] => []
  | .leaf _ _ a :: rest => .note (labels.written a.key) [] [] :: noteNodes labels rest
  | .branch _ ts a :: rest => .note (labels.written a.key) (blockNodes labels ts) [] :: noteNodes labels rest

end

end MixedScript.Markdown
