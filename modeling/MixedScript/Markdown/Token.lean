import MixedScript.Document.Node

/-!
Tokens, the form in which a source that has been read is exchanged: loosely typed, with a type name, raw
text, children and attributes, any of which may be missing or out of place.
-/

namespace MixedScript.Markdown

inductive TokenType where
  | heading | paragraph | blockText | blockCode | blockQuote | list | listItem | taskListItem
  | table | tableHead | tableBody | tableRow | tableCell
  | thematicBreak | blockHtml | blockMath | footnotes | footnoteItem | blankLine
  | text | strong | emphasis | strikethrough | codeSpan | link | image
  | hardBreak | softBreak | inlineHtml | inlineMath | footnoteReference
  | unknown (name : String)
  deriving DecidableEq, Repr

/-- The types of tokens by their names. -/
def tokenTypes : List (String × TokenType) := [
  ("heading", .heading), ("paragraph", .paragraph), ("block_text", .blockText), ("block_code", .blockCode),
  ("block_quote", .blockQuote), ("list", .list), ("list_item", .listItem), ("task_list_item", .taskListItem),
  ("table", .table), ("table_head", .tableHead), ("table_body", .tableBody), ("table_row", .tableRow),
  ("table_cell", .tableCell), ("thematic_break", .thematicBreak), ("block_html", .blockHtml),
  ("block_math", .blockMath), ("footnotes", .footnotes), ("footnote_item", .footnoteItem),
  ("blank_line", .blankLine), ("text", .text), ("strong", .strong), ("emphasis", .emphasis),
  ("strikethrough", .strikethrough), ("codespan", .codeSpan), ("link", .link), ("image", .image),
  ("linebreak", .hardBreak), ("softbreak", .softBreak), ("inline_html", .inlineHtml),
  ("inline_math", .inlineMath), ("footnote_ref", .footnoteReference)]

/-- The type of tokens that goes by a name. -/
def TokenType.ofName (name : String) : TokenType :=
  (tokenTypes.lookup name).getD (.unknown name)

/-- The attributes of a token. Each has the value that a missing one counts as. -/
structure Attributes where
  /-- The level of a heading. -/
  level : Option Int := none
  /-- The info string of a block of code. -/
  info : Option Chars := none
  /-- Whether code is a block by indentation. -/
  indented : Bool := false
  /-- Whether a list is numbered. -/
  ordered : Bool := false
  /-- The first number of a list. -/
  start : Int := 1
  /-- Whether the items of a list stand on consecutive lines. -/
  tight : Bool := true
  /-- The last character of the marker of a list. -/
  bullet : Option Chars := none
  /-- Whether the checkbox of an item is ticked, if it has one. -/
  checked : Option Bool := none
  /-- The alignment of a cell. -/
  align : Option Alignment := none
  /-- The key of a note. -/
  key : Chars := []
  /-- The destination of a link or an image. -/
  url : Chars := []
  /-- The title of a link or an image. -/
  title : Option Chars := none
  /-- The key of the definition that a link or an image refers to. -/
  ref : Option Chars := none
  /-- The label of a reference as written. -/
  label : Option Chars := none
  deriving DecidableEq, Repr

/-- A token. Its children, if it has any, stand for its text in place of the raw text. -/
inductive Token where
  /-- A token with raw text. -/
  | leaf (type : TokenType) (raw : Chars) (attributes : Attributes)
  | branch (type : TokenType) (children : List Token) (attributes : Attributes)
  deriving Repr

instance : Inhabited Token := ⟨.leaf .text [] {}⟩

namespace Token

def type : Token → TokenType
  | leaf t _ _ | branch t _ _ => t

/-- The raw text of a token. -/
def raw : Token → Chars
  | leaf _ s _ => s
  | branch .. => []

def children : Token → List Token
  | leaf .. => []
  | branch _ ts _ => ts

def attributes : Token → Attributes
  | leaf _ _ a | branch _ _ a => a

mutual

/-- The raw text of a token and of everything below it. -/
def plainText : Token → Chars
  | leaf _ s _ => s
  | branch _ ts _ => plainTextOf ts

/-- The raw text of several tokens. -/
def plainTextOf : List Token → Chars
  | [] => []
  | t :: rest => plainText t ++ plainTextOf rest

end

end Token

end MixedScript.Markdown
