import MixedScript.Markdown.FrontMatter
import MixedScript.Markdown.Phrase
import MixedScript.Markdown.TokenTree

/-!
Reading a source: its outline first, which settles all definitions, then the text of its lines, then the notes
in the order in which they are referred to. Notes that nothing refers to follow at the end.
-/

namespace MixedScript.Markdown

/-- The checkbox at the start of an item, and what follows it. -/
def checkbox? (cs : Chars) : Option (Bool × Chars) :=
  match cs with
  | '[' :: c :: ']' :: b :: rest =>
    if (c == ' ' || c == 'x' || c == 'X') && Text.isBlank b then some (c != ' ', rest.dropWhile Text.isBlank)
    else none
  | _ => none

/-- The blocks of an item without the checkbox at their start, and the checkbox. -/
def takeCheckbox (blocks : List Token) : List Token × Option Bool :=
  match blocks with
  | .leaf type text a :: rest =>
    if type = .paragraph ∨ type = .blockText then
      match checkbox? text with
      | some (checked, text) => (.leaf type text a :: rest, some checked)
      | none => (blocks, none)
    else (blocks, none)
  | _ => (blocks, none)

mutual

/-- A token with the checkboxes of the items in it recognised. -/
def withTasks : Token → Token
  | .branch .listItem blocks a =>
    let (blocks, checked) := takeCheckbox (withTasksAll blocks)
    .branch .listItem blocks { a with checked := checked }
  | .branch type ts a => .branch type (withTasksAll ts) a
  | t => t

/-- Tokens with the checkboxes of the items in them recognised. -/
def withTasksAll : List Token → List Token
  | [] => []
  | t :: rest => withTasks t :: withTasksAll rest

end

/-- Whether a character is dropped at the ends of the text of a block. -/
def isEdgeBlank (c : Char) : Bool :=
  c == ' ' || c == '\r' || c == '\n' || c == '\t' || c == '\x0c'

/-- Whether the raw text of a token is the unread text of its lines. -/
def holdsText : TokenType → Bool
  | .paragraph | .blockText | .heading | .tableCell => true
  | _ => false

mutual

/-- A token of an outline with the text of its lines read, and the keys of the notes referred to so far. -/
def readText (ctx : LineContext) (noted : List Chars) : Token → Token × List Chars
  | .leaf type raw a =>
    if holdsText type then
      let (ts, noted) := Phrase.read ctx noted (Chars.trim isEdgeBlank raw)
      (.branch type ts a, noted)
    else (.leaf type raw a, noted)
  | .branch type ts a =>
    let (ts, noted) := readTexts ctx noted ts
    (.branch type ts a, noted)

/-- Tokens of an outline with the text of their lines read. -/
def readTexts (ctx : LineContext) (noted : List Chars) : List Token → List Token × List Chars
  | [] => ([], noted)
  | t :: rest =>
    let (t, noted) := readText ctx noted t
    let (rest, noted) := readTexts ctx noted rest
    (t :: rest, noted)

end

/-- A line without the spaces at its start if there are at least `width`. -/
def dedent (width : Nat) (line : Chars) : Chars :=
  if width ≤ indentation line then line.drop (indentation line) else line

/-- The outline of a note. One line is a paragraph; more are blocks at the indentation of the first line after
the first that is not empty, without blanks at either end. -/
def noteOutline (s : Scope) (definitions : Definitions) (text : Chars) : List Token × Definitions :=
  match ((Chars.boundaryLines text).drop 1).find? (fun line => !line.isEmpty) with
  | none => ([.leaf .paragraph (Chars.strip text) {}], definitions)
  | some line =>
    let width := (line.takeWhile Text.isBlank).length
    let o := Outline.ofText { s with depth := 1 } definitions (Chars.strip (mapLines (dedent width) text))
    (o.tokens.reverse, o.definitions)

/-- The outlines of the notes of some keys, one after the other. -/
def noteOutlines (s : Scope) (definitions : Definitions) : List Chars → List Token × Definitions
  | [] => ([], definitions)
  | key :: rest =>
    let (ts, definitions) := noteOutline s definitions ((definitions.notes.lookup key).getD [])
    let (more, definitions) := noteOutlines s definitions rest
    (.branch .footnoteItem ts { key := key } :: more, definitions)

/-- A source that has been read: its tokens and what it defines. -/
structure Reading where
  tokens : List Token
  /-- What has been defined. -/
  definitions : Definitions
  /-- Keys of the notes that have been referred to. -/
  noted : List Chars

/-- The context for reading lines under definitions. -/
def LineContext.of (options : ReaderOptions) (definitions : Definitions) : LineContext :=
  ⟨definitions, options.strikethrough, options.math, options.footnotes⟩

/-- A reading with the notes of some keys at its end. -/
def Reading.addNotes (options : ReaderOptions) (r : Reading) (keys : List Chars) : Reading :=
  if keys.isEmpty then r
  else
    let (items, definitions) := noteOutlines (.document options) r.definitions keys
    let (items, noted) := readTexts (.of options definitions) r.noted items
    ⟨r.tokens ++ [.branch .footnotes items {}], definitions, noted⟩

/-- A source in the form in which it is read: lines end in line feeds, and so does the last. -/
def normalSource (cs : Chars) : Chars :=
  let cs := Chars.unifyLineEnds cs
  if cs.getLast? == some '\n' then cs else cs ++ ['\n']

def readSource (options : ReaderOptions) (cs : Chars) : Reading :=
  let outline := Outline.ofText (.document options) {} (normalSource cs)
  let tokens := if options.taskLists then withTasksAll outline.tokens.reverse else outline.tokens.reverse
  let (tokens, noted) := readTexts (.of options outline.definitions) [] tokens
  let r := Reading.addNotes options ⟨tokens, outline.definitions, noted⟩ noted
  r.addNotes options ((r.definitions.notes.map Prod.fst).filter (fun key => !r.noted.contains key))

/-- The labels of notes in a source as they are first written. -/
def noteLabels : Nat → Chars → NoteLabels
  | 0, _ => []
  | _, [] => []
  | fuel + 1, c :: rest =>
    match Opening.noteMark? (c :: rest) with
    | some (label, after) => (normalLabel label, label) :: noteLabels fuel after
    | none => noteLabels fuel rest

def definitionNode (entry : Chars × LinkDefinition) : Node :=
  .inert (.definition entry.1 (restoreUrl entry.2.target.url) entry.2.target.title (some entry.2.label)) []

/-- The blocks of a source. Definitions of references stand at the end. -/
def blocksOf (options : ReaderOptions) (cs : Chars) : List Node :=
  let r := readSource options cs
  blockNodes (noteLabels cs.length cs) r.tokens ++ r.definitions.links.map definitionNode

/-- The document of a source, and what is to be told about it. -/
def read (options : ReaderOptions) (cs : Chars) : Except Mishap (Node × Journal) := do
  let preamble ← readPreamble options cs
  let blocks := blocksOf options preamble.rest
  let told := Entry.debug .reader ("Parsed markdown into " ++ showNat blocks.length ++ " top-level nodes")
  return (.group .document blocks preamble.metadata, preamble.journal ++ [told])

end MixedScript.Markdown
