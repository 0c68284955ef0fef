import MixedScript.Value

/-!
Document trees. Nodes come in families: groups hold blocks, rows or items whose boundaries do not matter;
flows bear inline content, so that each boundary between two of their children may need a space; leaves
hold text, math source, code or nothing that spacing looks at. A note holds blocks but counts as a leaf.
-/

namespace MixedScript

/-- The kinds of nodes. -/
inductive Kind where
  | document | blockQuote | list | table | tableRow
  | heading | paragraph | listItem | tableCell
  | emphasis | strong | strikethrough | link | linkReference
  | text | mathInline | mathBlock | code
  | codeBlock | thematicBreak | htmlBlock | htmlInline | lineBreak
  | image | imageReference | definition | footnoteReference | footnoteDefinition
  deriving DecidableEq, Repr

/-- The name of a kind as messages give it. -/
def Kind.name : Kind → String
  | document => "Document"
  | blockQuote => "BlockQuote"
  | list => "List"
  | table => "Table"
  | tableRow => "TableRow"
  | heading => "Heading"
  | paragraph => "Paragraph"
  | listItem => "ListItem"
  | tableCell => "TableCell"
  | emphasis => "Emphasis"
  | strong => "Strong"
  | strikethrough => "Strikethrough"
  | link => "Link"
  | linkReference => "LinkReference"
  | text => "Text"
  | mathInline => "MathInline"
  | mathBlock => "MathBlock"
  | code => "Code"
  | codeBlock => "CodeBlock"
  | thematicBreak => "ThematicBreak"
  | htmlBlock => "HTMLBlock"
  | htmlInline => "HTMLInline"
  | lineBreak => "LineBreak"
  | image => "Image"
  | imageReference => "ImageReference"
  | definition => "Definition"
  | footnoteReference => "FootnoteReference"
  | footnoteDefinition => "FootnoteDefinition"

/-- Horizontal placement of a table column. -/
inductive Alignment where
  | left | center | right
  deriving DecidableEq, Repr

/-- How a reference names its definition: by a label of its own, by its text and empty brackets, or by its
text alone. -/
inductive ReferenceStyle where
  | full | collapsed | shortcut
  deriving DecidableEq, Repr

/-- State of the checkbox of a task. -/
inductive TaskState where
  | checked | unchecked
  deriving DecidableEq, Repr

abbrev HeadingLevel := { n : Nat // 1 ≤ n ∧ n ≤ 6 }

/-- The level that an integer names. -/
def HeadingLevel.ofInt? (i : Int) : Option HeadingLevel :=
  if h : 1 ≤ i.toNat ∧ i.toNat ≤ 6 then some ⟨i.toNat, h⟩ else none

/-- What sets one group apart from another. -/
inductive Group where
  /-- The root of a document. -/
  | document
  /-- A quotation. -/
  | blockQuote
  /-- A list: numbered or not, its first number, whether its items stand on consecutive lines, and the
  bullet or the delimiter of its numbers. -/
  | list (ordered : Bool) (start : Int) (tight : Bool) (bullet : Option Chars)
  /-- A table, whose first row is a header or not, with the alignments of its columns. -/
  | table (headed : Bool) (alignments : List (Option Alignment))
  | tableRow (header : Bool)
  deriving DecidableEq, Repr

/-- What sets one flow apart from another. -/
inductive Flow where
  | heading (level : HeadingLevel)
  | paragraph
  /-- An item of a list, with the state of its checkbox. -/
  | listItem (task : Option TaskState)
  | tableCell (alignment : Option Alignment)
  | emphasis
  /-- Strong emphasis. -/
  | strong
  /-- Deleted text. -/
  | strikethrough
  | link (url : Chars) (title : Option Chars)
  /-- A link by reference: the label in its normal form, and as written. -/
  | linkReference (identifier : Chars) (label : Option Chars) (style : ReferenceStyle)
  deriving DecidableEq, Repr

/-- Whether math source stands in a line or as a block of its own. -/
inductive MathForm where
  | inline | block
  deriving DecidableEq, Repr

/-- Leaves that spacing does not look into. -/
inductive Inert where
  | codeBlock (content : Chars) (language : Option Chars)
  /-- A horizontal rule. -/
  | thematicBreak
  /-- A block of raw markup. -/
  | htmlBlock (content : Chars)
  /-- Raw markup in a line. -/
  | htmlInline (content : Chars)
  /-- The end of a line, soft or hard. -/
  | lineBreak (soft : Bool)
  | image (url alt : Chars) (title : Option Chars)
  | imageReference (identifier alt : Chars) (label : Option Chars) (style : ReferenceStyle)
  /-- The definition of a reference. -/
  | definition (identifier url : Chars) (title label : Option Chars)
  /-- A reference to a note. -/
  | footnoteReference (identifier : Chars)
  /-- A leaf whose content was never given, and which therefore cannot be written. -/
  | unset (kind : Kind)
  deriving DecidableEq, Repr

/-- A node of a document tree, with its metadata. -/
inductive Node where
  /-- A node that holds blocks, rows or items. The header of a table is the first of its rows. -/
  | group (form : Group) (children : List Node) (metadata : Mapping)
  /-- A node that bears inline content. -/
  | flow (form : Flow) (children : List Node) (metadata : Mapping)
  /-- A run of text. -/
  | text (content : Chars) (metadata : Mapping)
  /-- Math source. -/
  | math (form : MathForm) (content : Chars) (metadata : Mapping)
  /-- Code in a line. -/
  | code (content : Chars) (metadata : Mapping)
  /-- A note with its blocks. -/
  | note (identifier : Chars) (children : List Node) (metadata : Mapping)
  /-- Any other leaf. -/
  | inert (leaf : Inert) (metadata : Mapping)
  deriving Repr

def Group.kind : Group → Kind
  | document => .document
  | blockQuote => .blockQuote
  | list .. => .list
  | table .. => .table
  | tableRow _ => .tableRow

def Flow.kind : Flow → Kind
  | heading _ => .heading
  | paragraph => .paragraph
  | listItem _ => .listItem
  | tableCell _ => .tableCell
  | emphasis => .emphasis
  | strong => .strong
  | strikethrough => .strikethrough
  | link .. => .link
  | linkReference .. => .linkReference

/-- The kind of an inert leaf. -/
def Inert.kind : Inert → Kind
  | codeBlock .. => .codeBlock
  | thematicBreak => .thematicBreak
  | htmlBlock _ => .htmlBlock
  | htmlInline _ => .htmlInline
  | lineBreak _ => .lineBreak
  | image .. => .image
  | imageReference .. => .imageReference
  | definition .. => .definition
  | footnoteReference _ => .footnoteReference
  | unset kind => kind

namespace Node

def kind : Node → Kind
  | group form _ _ => form.kind
  | flow form _ _ => form.kind
  | text .. => .text
  | math .inline _ _ => .mathInline
  | math .block _ _ => .mathBlock
  | code .. => .code
  | note .. => .footnoteDefinition
  | inert leaf _ => leaf.kind

/-- Whether a node is entered on the way to its leaves; a note is not. -/
def isContainer : Node → Bool
  | group .. | flow .. => true
  | _ => false

/-- The nodes that a container holds, in document order; none for a leaf. -/
def children : Node → List Node
  | group _ cs _ | flow _ cs _ => cs
  | _ => []

/-- A space that stands on its own between two nodes. -/
def space : Node :=
  text [' '] []

end Node

end MixedScript
