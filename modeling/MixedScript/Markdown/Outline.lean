import MixedScript.Markdown.Outline.Opening
import MixedScript.Markdown.Outline.Table
import MixedScript.Settings.Options

/-!
The outline of a source: its blocks as tokens, with the text of their lines not yet read. Definitions of
references and notes are set aside on the way. A line that opens no block, or whose block declines, continues
the paragraph above it or starts one. Quotations and items also take lines that are not quoted or indented, to
continue their last paragraphs; in a quotation such a lazy line underlines no heading.
-/

namespace MixedScript.Markdown

/-- A definition of a reference. -/
structure LinkDefinition where
  /-- The label as written. -/
  label : Chars
  /-- Where the reference leads. -/
  target : Target
  deriving Repr

/-- What a source defines, under keys in the order of their first definitions. -/
structure Definitions where
  /-- Targets of references. -/
  links : List (Chars × LinkDefinition) := []
  notes : List (Chars × Chars) := []
  deriving Repr

/-- Entries with one more at the end, unless its key is there already. -/
def addFirst {α : Type} (key : Chars) (value : α) (entries : List (Chars × α)) : List (Chars × α) :=
  if (entries.lookup key).isSome then entries else entries ++ [(key, value)]

/-- Where blocks stand, and with that which of them are recognised. -/
structure Scope where
  /-- The number of blocks around them. -/
  depth : Nat := 0
  /-- Whether quotations and lists are recognised. -/
  containers : Bool := true
  /-- Whether tables are recognised. -/
  tables : Bool := false
  /-- Whether blocks of math are recognised. -/
  math : Bool := false
  /-- Whether notes are recognised. -/
  notes : Bool := false
  deriving Repr

/-- The greatest depth. -/
def Scope.limit : Nat := 20

namespace Scope

/-- The scope of the document itself. -/
def document (options : ReaderOptions) : Scope :=
  { tables := options.tables, math := options.math, notes := options.footnotes }

/-- The scope inside a quotation or an item of a list. Neither is recognised at the greatest depth. -/
def inner (s : Scope) : Scope :=
  { depth := s.depth + 1, containers := s.depth + 1 < limit }

/-- The block that the start of a text opens, given whether its first line is a lazy one, which opens none if it
looks like the underline of a heading. -/
def opening? (s : Scope) (isLazy : Bool) (cs : Chars) : Option Opening :=
  if isLazy && (Opening.underline? cs).isSome then none
  else
    Opening.fence? 3 cs <|> Opening.indented? cs <|> Opening.heading? 3 cs <|> Opening.underline? cs <|>
      Opening.rule? 3 cs <|> (if s.containers then Opening.quote? 3 cs else none) <|>
      (if s.math then Opening.math? cs else none) <|> (if s.containers then Opening.list? 3 cs else none) <|>
      (if s.notes then Opening.note? cs else none) <|> Opening.definition? cs <|> Opening.html? cs <|>
      Opening.blank? cs

end Scope

/-- An outline as far as it has been read. -/
structure Outline where
  /-- The text that is left. -/
  rest : Chars
  /-- The lazy lines, each by the length of the text from its start on. -/
  lazyLines : List Nat := []
  /-- The tokens, the latest first. -/
  tokens : List Token := []
  /-- What has been defined. -/
  definitions : Definitions := {}

namespace Outline

/-- The outline with one more token, and the text that is left after it. -/
def push (o : Outline) (t : Token) (rest : Chars) : Outline :=
  { o with rest := rest, tokens := t :: o.tokens }

/-- The outline with one more token before the latest. -/
def pushUnder (o : Outline) (t : Token) : Outline :=
  match o.tokens with
  | [] => { o with tokens := [t] }
  | latest :: earlier => { o with tokens := latest :: t :: earlier }

/-- The outline with one more token after the first `place` ones. -/
def insertAt (o : Outline) (place : Nat) (t : Token) : Outline :=
  let later := o.tokens.length - place
  { o with tokens := o.tokens.take later ++ t :: o.tokens.drop later }

/-- Whether the next line is a lazy one. -/
def isAtLazyLine (o : Outline) : Bool :=
  match o.lazyLines with
  | [] => false
  | places => places.contains o.rest.length

/-- The text of the paragraph that is still open. -/
def openParagraph? (o : Outline) : Option (Chars × List Token) :=
  match o.tokens with
  | .leaf .paragraph text _ :: earlier => some (text, earlier)
  | _ => none

/-- The outline with a text added to the open paragraph, if there is one. -/
def continueParagraph? (o : Outline) (text rest : Chars) : Option Outline :=
  o.openParagraph?.map (fun (start, earlier) =>
    { o with rest := rest, tokens := .leaf .paragraph (start ++ text) {} :: earlier })

/-- The outline with a text as lines of a paragraph. -/
def addText (o : Outline) (text rest : Chars) : Outline :=
  (o.continueParagraph? text rest).getD (o.push (.leaf .paragraph text {}) rest)

/-- The outline with the next line as a line of a paragraph. -/
def addLine (o : Outline) : Outline :=
  o.addText (firstLineWithEnd o.rest) (afterLine o.rest)

/-- The outline with a thing that stands in a paragraph if one is open, and on its own if not. -/
def unlessParagraph (o : Outline) (alone : Unit → Option Outline) : Option Outline :=
  match o.continueParagraph? (firstLineWithEnd o.rest) (afterLine o.rest) with
  | some o => some o
  | none => alone ()

/-- The lines of fenced code to the closing fence or the end, and what follows. -/
def fencedLines (mark : Char) (count : Nat) : Nat → Chars → Chars × Chars
  | 0, cs => ([], cs)
  | fuel + 1, cs =>
    if cs.isEmpty then ([], [])
    else
      let line := firstLine cs
      let run := (line.drop (indentation line)).takeWhile (· == mark)
      if indentation line ≤ 3 && count ≤ run.length &&
          (line.drop (indentation line + run.length)).all Text.isInlineBlank then ([], afterLine cs)
      else
        let (code, rest) := fencedLines mark count fuel (afterLine cs)
        (firstLineWithEnd cs ++ code, rest)

/-- A block of fenced code. -/
def fence (o : Outline) (indent : Nat) (mark : Char) (count : Nat) (info : Chars) : Option Outline :=
  if mark == '\x60' && info.contains '\x60' then none
  else
    let (code, rest) := fencedLines mark count o.rest.length (afterLine o.rest)
    let info := if info.isEmpty then none else some (Chars.strip (unescape info))
    some (o.push (.leaf .blockCode (mapLines (dropIndent indent) code) { info := info }) rest)

/-- The lines of code by indentation at the start of a text, and the empty lines among and after them; and what
follows. -/
def indentedLines : Nat → Chars → Chars × Chars
  | 0, cs => ([], cs)
  | fuel + 1, cs =>
    if cs.isEmpty then ([], [])
    else if (Opening.codeLine? cs).isSome || startsBlank cs then
      let (code, rest) := indentedLines fuel (afterLine cs)
      (firstLineWithEnd cs ++ code, rest)
    else ([], cs)

/-- A block of code by indentation. -/
def indented (o : Outline) : Outline :=
  let (source, rest) := indentedLines o.rest.length o.rest
  let code := stripLineFeeds (mapLines (fun line => dropIndent 4 (tabToColumn 4 line)) source)
  o.push (.leaf .blockCode code { indented := true }) rest

/-- A definition of a reference. -/
def definition (o : Outline) (label rest : Chars) : Option Outline :=
  let key := normalLabel label
  if key.isEmpty then none
  else
    (definitionTarget? rest).map (fun (target, rest) =>
      { o with
        rest := rest
        definitions := { o.definitions with links := addFirst key ⟨label, target⟩ o.definitions.links } })

def note (o : Outline) (key text rest : Chars) : Outline :=
  { o with rest := rest, definitions := { o.definitions with notes := addFirst key text o.definitions.notes } }

/-- A block of HTML. -/
def html (o : Outline) (start : HtmlStart) (rest : Chars) : Option Outline :=
  let toBlankLine := fun () =>
    let (raw, rest) := cutAtBlankLine o.rest.length o.rest
    o.push (.leaf .blockHtml raw {}) rest
  match start with
  | .toMark mark =>
    let (raw, rest) := cutAfterMark mark (o.rest.length - rest.length) o.rest
    some (o.push (.leaf .blockHtml raw {}) rest)
  | .toBlankLine => some (toBlankLine ())
  | .loneTag closing =>
    o.unlessParagraph (fun () => if endsTagLine closing rest then some (toBlankLine ()) else none)

/-- The open paragraph as a heading. -/
def underline? (o : Outline) (level : Nat) : Option Outline :=
  o.openParagraph?.map (fun (text, earlier) =>
    { o with rest := afterLine o.rest, tokens := .leaf .heading text { level := some level } :: earlier })

/-- A line of a quotation, with the line feed that ends it. -/
structure QuoteLine where
  /-- The line without the mark of the quotation. -/
  text : Chars
  /-- Whether it stands there without a mark. -/
  isLazy : Bool

namespace QuoteLine

/-- The text of a line inside the quotation. -/
def innerText (l : QuoteLine) : Chars :=
  tabToSpaces l.text

def textOf (lines : List QuoteLine) : Chars :=
  lines.flatMap innerText

/-- The places of the lazy lines in the text of lines, each by the length of the text from there on. -/
def lazyPlaces : List QuoteLine → List Nat
  | [] => []
  | l :: rest =>
    let later := lazyPlaces rest
    if l.isLazy then (textOf (l :: rest)).length :: later else later

end QuoteLine

/-- A quoted line without its mark, and without a space after it. -/
def quotedLine (text : Chars) : Chars :=
  dropIndent 1 (tabToColumn 3 text) ++ ['\n']

/-- The quoted lines at the start of a text without their marks, and what follows them. -/
def quotedLines : Nat → Chars → List QuoteLine × Chars
  | 0, cs => ([], cs)
  | fuel + 1, cs =>
    match Opening.quote? 3 cs with
    | some (.quote text) =>
      let (more, rest) := quotedLines fuel (afterLine cs)
      (⟨quotedLine text, false⟩ :: more, rest)
    | _ => ([], cs)

/-- Whether a text is blank or ends in an empty line. -/
def endsBlank (cs : Chars) : Bool :=
  cs.all Text.isBlank ||
    ((Chars.dropEndWhile Text.isInlineBlank cs.dropLast).getLast? == some '\n')

/-- The text of an item on the line of its marker, and the columns from the marker to the text. Five columns or
more are one and the start of code by indentation. -/
def itemStart (m : ListMarker) : Chars × Nat :=
  let text := expandIndent m.width m.text
  let gap := indentation text
  if gap == text.length then ([], 1)
  else
    let width := if 5 ≤ gap then 1 else gap
    (text.drop width ++ ['\n'], width)

/-- The lines of an item without the indentation that makes them belong to it. -/
def itemBody (width : Nat) (cs : Chars) : Chars :=
  mapLines (fun line => if width ≤ indentation line then line.drop width else line) cs

def isParagraph (t : Token) : Bool :=
  t.type == .paragraph

/-- Whether the blocks of an item make its list a loose one: an empty line or two paragraphs do. -/
def isLoose (ts : List Token) : Bool :=
  ts.any (fun t => t.type == .blankLine) || 1 < ts.countP isParagraph

/-- A block of a tight item: a paragraph becomes text without a block of its own. -/
def tighten : Token → Token
  | .leaf .paragraph text a => .leaf .blockText text a
  | t => t

/-- An item of a tight list. -/
def tightenItem (item : Token) : Token :=
  .branch item.type (item.children.map tighten) item.attributes

inductive ItemEnd where
  /-- The list ends. -/
  | list
  /-- The next item starts, after an empty line or not. -/
  | item (marker : ListMarker) (afterBlank : Bool)
  /-- A block that stands after the list has been read; so many tokens stand before the list. -/
  | block (place : Nat)

/-- What may end an item without an empty line before it. -/
inductive ItemBreak where
  /-- The next item. -/
  | item (marker : ListMarker)
  /-- Another block. -/
  | block (opening : Opening)

/-- What breaks off an item whose marker takes `width` columns. -/
def breakingItem? (width : Nat) (bullet : Char) (cs : Chars) : Option ItemBreak :=
  let w := min width 3
  (Opening.rule? w cs).map .block <|> (Opening.item? w bullet cs).map .item <|>
    (Opening.fence? w cs <|> Opening.heading? w cs <|> Opening.quote? w cs <|> Opening.interruptingHtml? w cs <|>
      Opening.list? w cs).map .block

/-- The items of a list as far as they have been read, the latest first. -/
structure Items where
  items : List Token := []
  /-- Whether the list is tight so far. -/
  tight : Bool := true

mutual

/-- Reads blocks to the end of the text. -/
def read : Nat → Scope → Outline → Outline
  | 0, _, o => o
  | fuel + 1, s, o =>
    if o.rest.isEmpty then o
    else
      match s.opening? o.isAtLazyLine o.rest with
      | some opening => read fuel s ((enter fuel s o opening).getD o.addLine)
      | none =>
        if s.tables then
          match TableAttempt.ofText o.rest with
          | .table t rest => read fuel s (o.push t rest)
          | .lines lines rest => read fuel s (o.addText (lines.flatMap (· ++ ['\n'])) rest)
        else read fuel s o.addLine

/-- Reads the block of an opening; nothing if it declines. -/
def enter : Nat → Scope → Outline → Opening → Option Outline
  | 0, _, _, _ => none
  | fuel + 1, s, o, opening =>
    match opening with
    | .fence indent mark count info => o.fence indent mark count info
    | .indented => o.unlessParagraph (fun () => some o.indented)
    | .heading level text => some (o.push (.leaf .heading text { level := some level }) (afterLine o.rest))
    | .underline level =>
      match o.underline? level with
      | some o => some o
      | none => (Opening.rule? 3 o.rest <|> Opening.list? 3 o.rest).bind (enter fuel s o)
    | .rule => some (o.push (.leaf .thematicBreak [] {}) (afterLine o.rest))
    | .quote text => some (readQuote fuel s o text)
    | .math source rest => some (o.push (.leaf .blockMath source {}) rest)
    | .list marker =>
      if marker.text.all Text.isBlank || (!marker.digits.isEmpty && marker.number != 1) then
        o.unlessParagraph (fun () => some (readList fuel s o marker))
      else some (readList fuel s o marker)
    | .note key text rest => some (o.note key text rest)
    | .definition label rest => o.unlessParagraph (fun () => o.definition label rest)
    | .html start rest => o.html start rest
    | .blank => some (o.push (.leaf .blankLine [] {}) (dropBlankLines o.rest.length o.rest))

/-- Reads a quotation, given the rest of its first line. One that starts with an empty line or with code goes
on only over quoted lines. -/
def readQuote : Nat → Scope → Outline → Chars → Outline
  | 0, _, o, _ => o
  | fuel + 1, s, o, first =>
    let first := quotedLine first
    let after := { o with rest := afterLine o.rest }
    let (after, lines, broken) :=
      if startsBlank first || (Opening.indented? first).isSome || (Opening.fence? 3 first).isSome then
        let (lines, rest) := quotedLines after.rest.length after.rest
        ({ after with rest := rest }, lines, false)
      else readQuoted fuel s after false
    let lines := ⟨first, false⟩ :: lines
    let inner := read fuel s.inner
      { rest := QuoteLine.textOf lines, lazyLines := QuoteLine.lazyPlaces lines, definitions := after.definitions }
    let token : Token := .branch .blockQuote inner.tokens.reverse {}
    let after := { after with definitions := inner.definitions }
    if broken then after.pushUnder token else after.push token after.rest

/-- Reads the lines of a quotation after its first: quoted ones, and others that continue its last paragraph.
Tells whether a block that stands after the quotation has been read. -/
def readQuoted : Nat → Scope → Outline → Bool → Outline × List QuoteLine × Bool
  | 0, _, o, _ => (o, [], false)
  | fuel + 1, s, o, afterBlank =>
    if o.rest.isEmpty then (o, [], false)
    else
      let (quoted, rest) := quotedLines o.rest.length o.rest
      if !quoted.isEmpty then
        let (o, lines, broken) := readQuoted fuel s { o with rest := rest } (endsBlank (QuoteLine.textOf quoted))
        (o, quoted ++ lines, broken)
      else if afterBlank then (o, [], false)
      else
        match (Opening.breakingQuote? o.rest).bind (enter fuel s o) with
        | some o => (o, [], true)
        | none =>
          let line : QuoteLine := ⟨tabToColumn 3 (firstLineWithEnd o.rest), true⟩
          let (o, lines, broken) := readQuoted fuel s { o with rest := afterLine o.rest } false
          (o, line :: lines, broken)

/-- Reads a list that starts with a marker. -/
def readList : Nat → Scope → Outline → ListMarker → Outline
  | 0, _, o, _ => o
  | fuel + 1, s, o, marker =>
    let (after, done, place) := readItems fuel s { o with rest := afterLine o.rest } marker {}
    let items := done.items.reverse
    let token : Token := .branch .list (if done.tight then items.map tightenItem else items)
      { ordered := !marker.digits.isEmpty, start := if marker.digits.isEmpty then 1 else marker.number,
        tight := done.tight, bullet := some [marker.bullet] }
    match place with
    | some place => after.insertAt place token
    | none => after.push token after.rest

/-- Reads the items of a list from the one of a marker. If a block that stands after the list has been read,
tells how many tokens stand before the list. -/
def readItems : Nat → Scope → Outline → ListMarker → Items → Outline × Items × Option Nat
  | 0, _, o, _, items => (o, items, none)
  | fuel + 1, s, o, marker, items =>
    let (text, gap) := itemStart marker
    let width := marker.width + gap
    let (after, source, ending) := readItem fuel s o marker (!text.isEmpty) width [] false
    let inner := read fuel s.inner
      { rest := dropBlankEnd (text ++ itemBody width source), definitions := after.definitions }
    let children := inner.tokens.reverse
    let after := { after with definitions := inner.definitions }
    let items : Items :=
      { items := .branch .listItem children {} :: items.items, tight := items.tight && !isLoose children }
    match ending with
    | .list => (after, items, none)
    | .block place => (after, items, some place)
    | .item next afterBlank =>
      readItems fuel s { after with rest := afterLine after.rest } next
        { items with tight := items.tight && !afterBlank }

/-- Reads the lines of an item: those indented to its text, and others that continue its last paragraph. -/
def readItem : Nat → Scope → Outline → ListMarker → Bool → Nat → Chars → Bool → Outline × Chars × ItemEnd
  | 0, _, o, _, _, _, source, _ => (o, source, .list)
  | fuel + 1, s, o, marker, started, width, source, afterBlank =>
    if o.rest.isEmpty then (o, source, .list)
    else if startsBlank o.rest then
      readItem fuel s { o with rest := afterLine o.rest } marker started width (source ++ ['\n']) true
    else
      let line := expandIndent 0 (firstLineWithEnd o.rest)
      let after := { o with rest := afterLine o.rest }
      if width ≤ indentation line then
        if afterBlank && !started && source.all Text.isBlank then (o, source, .list)
        else readItem fuel s after marker started width (source ++ line) false
      else
        let broken : Option (Outline × ItemEnd) :=
          match breakingItem? marker.width marker.bullet o.rest with
          | none => none
          | some (.item next) => some (o, .item next afterBlank)
          | some (.block (.list _)) => some (o, .list)
          | some (.block opening) => (enter fuel s o opening).map (fun o' => (o', .block o.tokens.length))
        match broken with
        | some (o, ending) => (o, source, ending)
        | none =>
          if afterBlank then (o, source, .list)
          else readItem fuel s after marker started width (source ++ line) false

end

/-- The outline of a text in a scope, given what has been defined before it. -/
def ofText (s : Scope) (definitions : Definitions) (cs : Chars) : Outline :=
  read (16 * (cs.length + 16)) s { rest := cs, definitions := definitions }

end Outline

end MixedScript.Markdown
