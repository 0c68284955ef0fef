import MixedScript.Markdown.Outline
import MixedScript.Markdown.Phrase.Atom
import MixedScript.Markdown.Phrase.Flanking

/-!
The content of lines. A text is read from left to right: an atom is taken as a whole, a closing bracket makes
a link or an image of what stands after its partner, and runs of delimiters are paired when a link or the text
is complete. No link stands inside another or inside an anchor tag: there links are off.
-/

namespace MixedScript.Markdown

/-- What the reading of lines depends on. -/
structure LineContext where
  /-- What the source defines. -/
  definitions : Definitions
  /-- Whether deleted text is recognised. -/
  strikethrough : Bool
  /-- Whether math is recognised. -/
  math : Bool
  /-- Whether references to notes are recognised. -/
  notes : Bool

namespace Phrase

/-- A line as far as it has been read. -/
structure Line where
  /-- Characters that mean only themselves, the latest first. -/
  plain : Chars := []
  /-- The parts before them, the latest first. -/
  parts : List LinePart := []
  /-- Keys of the notes that have been referred to, in the order of their first references. -/
  noted : List Chars
  /-- The character that was read last. -/
  before : Option Char := none
  linksOff : Bool := false

namespace Line

/-- The parts with the pending characters among them. -/
def allParts (l : Line) : List LinePart :=
  if l.plain.isEmpty then l.parts else .token (textToken l.plain.reverse) :: l.parts

/-- The line with one more part, whose source ends in a character. -/
def push (l : Line) (p : LinePart) (last : Option Char) : Line :=
  { l with plain := [], parts := p :: l.allParts, before := last }

/-- The line with one more character that means only itself. -/
def pushPlain (l : Line) (c : Char) : Line :=
  { l with plain := c :: l.plain, before := some c }

end Line

/-- The last character of a text without what follows it. -/
def lastBefore (cs after : Chars) : Option Char :=
  (cs.take (cs.length - after.length)).getLast?

/-- The text that deleted text encloses, given the character before it, and what follows its end: two tildes
after a character that is neither blank nor a tilde, and before none. -/
def deletedEnd? (escaped : Bool) (before : Char) : Chars → Option (Chars × Chars)
  | [] => none
  | c :: rest =>
    let ends :=
      match c :: rest with
      | '~' :: '~' :: '~' :: _ => false
      | '~' :: '~' :: _ => (!Text.isBlank before && before != '~') || (before == '~' && escaped)
      | _ => false
    if ends then some ([], rest.drop 1)
    else (deletedEnd? (before == '\\' && !escaped) c rest).map (fun (t, r) => (c :: t, r))

/-- The enclosed text and the rest of deleted text whose opening tildes have been read. -/
def deleted? (cs : Chars) : Option (Chars × Chars) :=
  match cs with
  | [] => none
  | c :: rest =>
    if Text.isBlank c || c == '~' then none
    else (deletedEnd? false c rest).map (fun (t, r) => (c :: t, r))

/-- The nearest open bracket among parts of which the latest come first: the parts after it, what it is, and the
parts before it. -/
def findBracket? : List LinePart → Option (List LinePart × (Bool × Bool × Chars) × List LinePart)
  | [] => none
  | .bracket image active source :: below => some ([], (image, active, source), below)
  | p :: below => (findBracket? below).map (fun (inner, b, rest) => (p :: inner, b, rest))

/-- Parts in which no bracket can open a link any more. -/
def retireBrackets (ps : List LinePart) : List LinePart :=
  ps.map (fun p =>
    match p with
    | .bracket false _ source => .bracket false false source
    | p => p)

/-- The label that a reference goes by, and what follows the reference: the label in brackets after it, or its
own text between the brackets. -/
def referenceLabel? (source rest : Chars) : Option (Chars × Chars) :=
  let own := (label? source).bind (fun (label, after) => if after.length == rest.length then some label else none)
  match rest with
  | '[' :: more =>
    match label? more with
    | some ([], after) => own.map (fun label => (label, after))
    | some (label, after) => some (label, after)
    | none => own.map (fun label => (label, rest))
  | _ => own.map (fun label => (label, rest))
where
  label? (cs : Chars) : Option (Chars × Chars) := Opening.label? Opening.labelLimit cs

/-- The attributes of the link or image that a closing bracket ends, and what follows it. -/
def linkAttributes? (definitions : Definitions) (source rest : Chars) : Option (Attributes × Chars) :=
  let inline :=
    match rest with
    | '(' :: more => inlineTarget? more
    | _ => none
  match inline with
  | some (target, after) => some ({ url := target.url, title := target.title }, after)
  | none => do
    let (label, after) ← referenceLabel? source rest
    let key := normalLabel label
    let d ← definitions.links.lookup key
    some ({ url := d.target.url, title := d.target.title, ref := some key, label := some label }, after)

/-- The line after a closing bracket, and the text that is left. The text of a link is read by itself, with
links off. -/
def closeBracket (definitions : Definitions) (readLinkText : Chars → List Token) (l : Line) (rest : Chars) :
    Line × Chars :=
  match findBracket? l.allParts with
  | none => (l.pushPlain ']', rest)
  | some (inner, (image, active, source), below) =>
    match if active then linkAttributes? definitions source rest else none with
    | some (a, after) =>
      let before := (lastBefore rest after).or (some ']')
      if image then
        let token : Token := .branch .image (LinePart.tokens inner.reverse) a
        ({ l with plain := [], parts := .token token :: below, before := before }, after)
      else
        let text := source.take (source.length - rest.length - 1)
        let token : Token := .branch .link (readLinkText text) a
        ({ l with plain := [], parts := .token token :: retireBrackets below, before := before, linksOff := false },
          after)
    | none =>
      let opened := textToken (if image then ['!', '['] else ['['])
      ({ l with plain := [']'], parts := inner ++ .token opened :: below, before := some ']' }, rest)

/-- The atom at the start of a text. -/
def atom? (ctx : LineContext) (linksOff : Bool) (cs : Chars) : Option (Token × Chars) :=
  Atom.lineBreak? cs <|> Atom.escape? cs <|> (if ctx.math then Atom.math? cs else none) <|> Atom.code? cs <|>
    Atom.angle? linksOff cs

/-- The reference to a note at the start of a text: a token, and its key if the note is defined. -/
def noteReference? (ctx : LineContext) (cs : Chars) : Option (Token × Option Chars × Chars) := do
  if ctx.notes then
    let (label, after) ← Opening.noteMark? cs
    let key := normalLabel label
    if (ctx.definitions.notes.lookup key).isSome then some (.leaf .footnoteReference key {}, some key, after)
    else some (textToken (cs.take (cs.length - after.length)), none, after)
  else none

/-- A run of delimiters at the start of a text, given the character before it. -/
def run? (before : Option Char) (cs : Chars) : Option (DelimiterRun × Chars) :=
  match cs with
  | c :: _ =>
    if c == '*' || c == '_' then
      let count := (cs.takeWhile (· == c)).length
      let after := cs.drop count
      some (⟨c, count, count, opensBetween c before after.head?, closesBetween c before after.head?⟩, after)
    else none
  | [] => none

/-- Reads a text from some state of its line on. Returns the tokens of the line and the keys of the notes that
have been referred to. -/
def readFrom (ctx : LineContext) : Nat → Line → Chars → List Token × List Chars
  | 0, l, _ => (LinePart.tokens l.allParts.reverse, l.noted)
  | _, l, [] => (LinePart.tokens l.allParts.reverse, l.noted)
  | fuel + 1, l, c :: rest =>
    match atom? ctx l.linksOff (c :: rest) with
    | some (t, after) =>
      let l := { l.push (.token t) (lastBefore (c :: rest) after) with linksOff := Atom.linksOffAfter l.linksOff t }
      readFrom ctx fuel l after
    | none =>
      match run? l.before (c :: rest) with
      | some (r, after) => readFrom ctx fuel (l.push (.run r) (some r.mark)) after
      | none =>
        match noteReference? ctx (c :: rest) with
        | some (t, key, after) =>
          let noted := l.noted ++ (key.filter (fun k => !l.noted.contains k)).toList
          readFrom ctx fuel { l.push (.token t) (some ']') with noted := noted } after
        | none =>
          match c, rest with
          | '!', '[' :: rest => readFrom ctx fuel (l.push (.bracket true true rest) (some '[')) rest
          | '[', rest => readFrom ctx fuel (l.push (.bracket false (!l.linksOff) rest) (some '[')) rest
          | ']', rest =>
            let readLinkText := fun text => (readFrom ctx fuel { noted := l.noted, linksOff := true } text).1
            let (l, after) := closeBracket ctx.definitions readLinkText l rest
            readFrom ctx fuel l after
          | '~', '~' :: rest =>
            match if ctx.strikethrough then deleted? rest else none with
            | some (inner, after) =>
              let (children, noted) := readFrom ctx fuel { noted := l.noted, linksOff := l.linksOff } inner
              readFrom ctx fuel
                { l.push (.token (.branch .strikethrough children {})) (some '~') with noted := noted } after
            | none => readFrom ctx fuel (l.pushPlain '~') ('~' :: rest)
          | c, rest => readFrom ctx fuel (l.pushPlain c) rest

/-- Reads a text. Returns its tokens, of which an empty text has one, and the keys of the notes that have been
referred to. Fuel of twice the length is enough, since the text of a link, when it is read by itself, holds no
further link. -/
def read (ctx : LineContext) (noted : List Chars) (cs : Chars) : List Token × List Chars :=
  if cs.isEmpty then ([textToken []], noted)
  else readFrom ctx (2 * cs.length + 2) { noted := noted } cs

end Phrase

end MixedScript.Markdown
