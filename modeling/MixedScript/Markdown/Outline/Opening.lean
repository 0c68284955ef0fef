import MixedScript.Markdown.Label
import MixedScript.Markdown.Outline.Html
import MixedScript.Markdown.Target
import MixedScript.Text.DecimalDigit

/-!
Openings: how the first line of a block tells what kind of block it is. Each is recognised by itself, within
an indentation that depends on where the block stands.
-/

namespace MixedScript.Markdown

/-- The marker of a list item. -/
structure ListMarker where
  /-- The spaces before the marker. -/
  indent : Nat
  /-- The digits of a number, none for a bullet. -/
  digits : Chars
  /-- The bullet, or the delimiter after the number. -/
  bullet : Char
  /-- The rest of the line. -/
  text : Chars
  deriving Repr

/-- The number of columns that a marker takes with its indentation. -/
def ListMarker.width (m : ListMarker) : Nat :=
  m.indent + m.digits.length + 1

/-- The number of an item. -/
def ListMarker.number (m : ListMarker) : Nat :=
  m.digits.foldl (fun n c => 10 * n + (Text.digitValue? c).getD 0) 0

/-- Whether a delimiter follows the number of an item; a bullet stands alone. -/
def isNumberDelimiter (c : Char) : Bool :=
  c == '.' || c == ')'

/-- The opening of a block. -/
inductive Opening where
  /-- A fence of code: its indentation, its character and length, and the info string. -/
  | fence (indent : Nat) (mark : Char) (count : Nat) (info : Chars)
  /-- A line of code by indentation. -/
  | indented
  /-- A heading behind number signs. -/
  | heading (level : Nat) (text : Chars)
  /-- The underline that makes the paragraph above it a heading. -/
  | underline (level : Nat)
  /-- A thematic break. -/
  | rule
  /-- A quotation, with the rest of its first line. -/
  | quote (text : Chars)
  /-- A block of math to its end, and what follows it. -/
  | math (source rest : Chars)
  /-- The first item of a list. -/
  | list (marker : ListMarker)
  /-- A note to its end, and what follows it. -/
  | note (key text rest : Chars)
  /-- A definition of a reference as far as its colon, and what follows that. -/
  | definition (label rest : Chars)
  /-- A block of HTML, and what follows its marker. -/
  | html (start : HtmlStart) (rest : Chars)
  /-- An empty line. -/
  | blank
  deriving Repr

namespace Opening

/-- A fence of code. -/
def fence? (width : Nat) (cs : Chars) : Option Opening := do
  let start ← withinIndent? width (firstLine cs)
  let mark ← start.head?
  let run := start.takeWhile (· == mark)
  if (mark == '\x60' || mark == '~') && 3 ≤ run.length then
    some (.fence (indentation cs) mark run.length (dropInlineBlank (start.drop run.length)))
  else none

/-- What follows the indentation of a line of code. -/
def codeLine? (cs : Chars) : Option Chars :=
  let spaces := indentation cs
  let text :=
    if 4 ≤ spaces && ((cs.drop 4).head?.map (· != '\n')).getD false then some (cs.drop 4)
    else if (cs.drop spaces).head? == some '\t' then some (cs.drop (spaces + 1))
    else none
  text.filter (fun rest => (rest.head?.map (· != '\n')).getD false)

/-- A line of code by indentation. -/
def indented? (cs : Chars) : Option Opening :=
  (codeLine? cs).map (fun _ => indented)

/-- Whether a character is dropped at the ends of a heading. -/
def isHeadingEdge (c : Char) : Bool :=
  isLineBlank c || c == '\r' || c == '\n'

/-- The text of a heading without the number signs that close it. -/
def headingText (cs : Chars) : Chars :=
  let text := Chars.trim isHeadingEdge cs
  let marked := Chars.stripEnd text
  let body := Chars.dropEndWhile (· == '#') marked
  if body.length == marked.length then text
  else if body.isEmpty then []
  else if (body.getLast?.map Text.isBlank).getD false then Chars.stripEnd body
  else text

/-- A heading behind number signs. -/
def heading? (width : Nat) (cs : Chars) : Option Opening := do
  let start ← withinIndent? width (firstLine cs)
  let level := (start.takeWhile (· == '#')).length
  let rest := start.drop level
  if 1 ≤ level && level ≤ 6 && (rest.head?.map Text.isInlineBlank).getD true then
    some (.heading level (headingText rest))
  else none

/-- The underline of a heading. -/
def underline? (cs : Chars) : Option Opening := do
  let start ← withinIndent? 3 (firstLine cs)
  let run := start.takeWhile (fun c => c == '=' || c == '-')
  let last ← run.getLast?
  if (start.drop run.length).all Text.isInlineBlank then some (.underline (if last == '=' then 1 else 2)) else none

/-- A thematic break. -/
def rule? (width : Nat) (cs : Chars) : Option Opening := do
  let start ← withinIndent? width (firstLine cs)
  let mark ← start.head?
  if ['-', '_', '*'].contains mark && start.all (fun c => c == mark || Text.isInlineBlank c) &&
      3 ≤ start.count mark then
    some .rule
  else none

/-- A quotation. -/
def quote? (width : Nat) (cs : Chars) : Option Opening := do
  match ← withinIndent? width (firstLine cs) with
  | '>' :: text => some (.quote text)
  | _ => none

/-- A marker after its indentation, if a blank or the end of the line follows it. A number has at most nine
digits. -/
def marker? (indent : Nat) (start : Chars) : Option ListMarker := do
  let digits := start.takeWhile Text.isDecimalDigit
  match start.drop digits.length with
  | bullet :: text =>
    let fits :=
      if isNumberDelimiter bullet then 1 ≤ digits.length && digits.length ≤ 9
      else digits.isEmpty && ['-', '*', '+'].contains bullet
    if fits && (text.head?.map Text.isInlineBlank).getD true then some ⟨indent, digits, bullet, text⟩ else none
  | [] => none

/-- The first item of a list. -/
def list? (width : Nat) (cs : Chars) : Option Opening := do
  let start ← withinIndent? width (firstLine cs)
  (marker? (indentation cs) start).map .list

/-- A further item of a list, with the same bullet or delimiter. -/
def item? (width : Nat) (bullet : Char) (cs : Chars) : Option ListMarker := do
  let start ← withinIndent? width (firstLine cs)
  (marker? (indentation cs) start).filter (fun m => m.bullet == bullet)

/-- The lines before the one that closes a block of math, and what follows that. -/
def mathLines? : Nat → Chars → Option (List Chars × Chars)
  | 0, _ => none
  | fuel + 1, cs =>
    if cs.isEmpty then none
    else
      let line := firstLine cs
      match line with
      | '$' :: '$' :: rest =>
        if rest.all Text.isInlineBlank then some ([], afterLine cs)
        else (mathLines? fuel (afterLine cs)).map (fun (ls, r) => (line :: ls, r))
      | _ => (mathLines? fuel (afterLine cs)).map (fun (ls, r) => (line :: ls, r))

/-- A block of math, on one line or on several between lines of two dollar signs. -/
def math? (cs : Chars) : Option Opening := do
  match ← withinIndent? 3 (firstLine cs) with
  | '$' :: '$' :: text =>
    let text := Chars.dropEndWhile Text.isInlineBlank text
    if 2 ≤ text.length && text.drop (text.length - 2) == ['$', '$'] then
      some (.math (text.take (text.length - 2)) (afterLine cs))
    else if text.isEmpty && !(afterLine cs).isEmpty then
      let first := firstLine (afterLine cs)
      let (lines, rest) ← mathLines? cs.length (afterLine (afterLine cs))
      some (.math (Chars.join ['\n'] (first :: lines)) rest)
    else none
  | _ => none

/-- The label of a note that a caret has announced, to the bracket that closes it: at most the given number of
characters, none of them blank; a backslash takes the next one with it. -/
def noteLabel? : Nat → Chars → Option (Chars × Chars)
  | _, ']' :: rest => some ([], rest)
  | 0, _ => none
  | room + 1, '\\' :: c :: rest =>
    if c == '\n' then none else (noteLabel? room rest).map (fun (l, r) => ('\\' :: c :: l, r))
  | room + 1, c :: rest =>
    if c == '[' || c == '\\' || Text.isBlank c then none
    else (noteLabel? room rest).map (fun (l, r) => (c :: l, r))
  | _, [] => none

/-- A label of a note in brackets with a caret, and what follows it. -/
def noteMark? (cs : Chars) : Option (Chars × Chars) :=
  match cs with
  | '[' :: '^' :: rest => (noteLabel? 500 rest).filter (fun (label, _) => !label.isEmpty)
  | _ => none

/-- The lines at the start of a text that continue a note, which are indented by one to four spaces more than
the note, each with the line feeds after it; and the rest. -/
def noteLines (indent : Nat) : Nat → Chars → Chars × Chars
  | 0, cs => ([], cs)
  | fuel + 1, cs =>
    let spaces := indentation cs
    if indent + 1 ≤ spaces && spaces ≤ indent + 4 then
      let rest := (cs.dropWhile (· != '\n')).dropWhile (· == '\n')
      let (more, rest') := noteLines indent fuel rest
      (cs.take (cs.length - rest.length) ++ more, rest')
    else ([], cs)

/-- A note to its end. -/
def note? (cs : Chars) : Option Opening := do
  let start ← withinIndent? 4 cs
  let (label, after) ← noteMark? start
  match after with
  | ':' :: c :: after =>
    if Text.isInlineBlank c || c == '\n' then
      let rest := (after.dropWhile (· != '\n')).dropWhile (· == '\n')
      let (more, rest') := noteLines (indentation cs) rest.length rest
      some (.note (normalLabel label) (after.take (after.length - rest.length) ++ more) rest')
    else none
  | _ => none

/-- The label of a reference to the bracket that closes it: at most the given number of characters; a
backslash takes the next one with it. -/
def label? : Nat → Chars → Option (Chars × Chars)
  | _, ']' :: rest => some ([], rest)
  | 0, _ => none
  | room + 1, '\\' :: c :: rest =>
    if c == '\n' then none else (label? room rest).map (fun (l, r) => ('\\' :: c :: l, r))
  | room + 1, c :: rest =>
    if c == '[' || c == '\\' then none else (label? room rest).map (fun (l, r) => (c :: l, r))
  | _, [] => none

/-- The greatest number of characters in the label of a reference. -/
def labelLimit : Nat := 999

/-- A definition of a reference as far as its colon. -/
def definition? (cs : Chars) : Option Opening := do
  match ← withinIndent? 3 cs with
  | '[' :: rest =>
    match ← label? labelLimit rest with
    | (label, ':' :: rest) => some (.definition label rest)
    | _ => none
  | _ => none

/-- A block of HTML. -/
def html? (cs : Chars) : Option Opening := do
  let start ← withinIndent? 3 cs
  let (h, rest) ← htmlStart? start
  some (.html h rest)

/-- A block of HTML that may break off another block. Its marker takes the blank after the name of a tag. -/
def interruptingHtml? (width : Nat) (cs : Chars) : Option Opening := do
  let start ← withinIndent? width cs
  let (h, rest) ← htmlStart? start
  let after :=
    match rest with
    | '\n' :: rest => rest
    | rest => dropInlineBlank rest
  if interruptsBlock start rest then some (.html h after) else none

/-- An empty line. -/
def blank? (cs : Chars) : Option Opening :=
  if startsBlank cs then some .blank else none

/-- What breaks off a quotation without an empty line before it. -/
def breakingQuote? (cs : Chars) : Option Opening :=
  blank? cs <|> rule? 3 cs <|> fence? 3 cs <|> list? 3 cs <|> interruptingHtml? 3 cs

end Opening

end MixedScript.Markdown
