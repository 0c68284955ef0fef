import MixedScript.Text.Digits
import MixedScript.Yaml.Cursor

/-!
Lexemes of a document: the marks of its structure and its scalars. This module reads the ones that are made
of characters alone; where collections by indentation start and end is decided by the layout.
-/

namespace MixedScript.Yaml

inductive Lexeme where
  | streamEnd
  /-- A directive; one that has an effect on tags declares a handle. -/
  | directive (handle : Option (Chars × Chars))
  | documentStart | documentEnd
  | blockSequence | blockMapping | blockEnd
  | openSequence | closeSequence | openMapping | closeMapping
  | item | separator | key | value
  /-- A repetition of a named node. -/
  | alias (name : Chars)
  /-- A name for the next node. -/
  | anchor (name : Chars)
  /-- A tag for the next node, with its handle unless it is verbatim. -/
  | tag (handle : Option Chars) (suffix : Chars)
  /-- A scalar; a plain one is neither quoted nor a block. -/
  | scalar (text : Chars) (plain : Bool)
  deriving DecidableEq, Repr

namespace Lexeme

/-- Whether a character may stand in a name. -/
def isNameChar (c : Char) : Bool :=
  c.isAlphanum || c == '-' || c == '_'

/-- A name behind a mark. -/
def readName (c : Cursor) : Except Refusal (Chars × Cursor) :=
  let (cs, c) := c.step.span isNameChar
  if cs.isEmpty then .error .malformed
  else if endsWord c.peek? || (c.peek?.map ("?:,]\x7d%@\x60".toList.contains ·)).getD false then .ok (cs, c)
  else .error .malformed

/-- What an escape of one character stands for. -/
def escapes : List (Char × Char) := [
  ('0', '\x00'), ('a', '\x07'), ('b', '\x08'), ('t', '\t'), ('\t', '\t'), ('n', '\n'), ('v', '\x0b'),
  ('f', '\x0c'), ('r', '\r'), ('e', '\x1b'), (' ', ' '), ('\x22', '\x22'), ('\\', '\\'), ('/', '/'),
  ('N', '\u0085'), ('_', '\u00A0'), ('L', '\u2028'), ('P', '\u2029')]

/-- The number of digits behind an escape for a code point. -/
def escapeWidth? (c : Char) : Option Nat :=
  if c == 'x' then some 2 else if c == 'u' then some 4 else if c == 'U' then some 8 else none

/-- The refusal of a code point beyond the last. -/
def noCharacter : Refusal :=
  .value (.badValue "chr() arg not in range(0x110000)")

/-- The ends of empty lines after the end of a line inside quotes, and the place after them. A mark between
documents may not stand there. -/
def quotedBreaks : Nat → Cursor → Except Refusal (Chars × Cursor)
  | 0, _ => .error .malformed
  | fuel + 1, c =>
    if isDocumentMark c.rest then .error .malformed
    else
      let (_, c) := c.span Text.isInlineBlank
      if (c.peek?.map isLineEnd).getD false then do
        let (first, c) := c.lineBreak
        let (more, c) ← quotedBreaks fuel c
        .ok (first ++ more, c)
      else .ok ([], c)

/-- The end of a line inside a scalar as a text: a lone line feed is a space, and one of several is dropped. -/
def foldedBreak (first breaks : Chars) : Chars :=
  if first != ['\n'] then first ++ breaks
  else if breaks.isEmpty then [' ']
  else breaks

/-- An escape in double quotes, of which the backslash has been read. -/
def escaped (fuel : Nat) (c : Cursor) : Except Refusal (Chars × Cursor) :=
  match c.peek? with
  | none => .error .malformed
  | some x =>
    match escapes.lookup x, escapeWidth? x with
    | some y, _ => .ok ([y], c.step)
    | none, some width =>
      match Text.hexNumber? width (c.rest.drop 1) with
      | none => .error .malformed
      | some n =>
        if 0x10FFFF < n then .error noCharacter
        else .ok ([if 0xD800 ≤ n && n ≤ 0xDFFF then '\uFFFD' else Char.ofNat n], c.skip (width + 1))
    | none, none =>
      if isLineEnd x then quotedBreaks fuel c.lineBreak.2 else .error .malformed

/-- The content of a quoted scalar up to its closing quote, and the place after that. -/
def readQuoted (double : Bool) : Nat → Cursor → Except Refusal (Chars × Cursor)
  | 0, _ => .error .malformed
  | fuel + 1, c =>
    match c.peek? with
    | none => .error .malformed
    | some x =>
      if x == (if double then '\x22' else '\x27') then
        if !double && c.second? == some '\x27' then do
          let (more, c) ← readQuoted double fuel (c.skip 2)
          .ok ('\x27' :: more, c)
        else .ok ([], c.step)
      else if double && x == '\\' then do
        let (first, c) ← escaped fuel c.step
        let (more, c) ← readQuoted double fuel c
        .ok (first ++ more, c)
      else if Text.isInlineBlank x || isLineEnd x then do
        let (blanks, c) := c.span Text.isInlineBlank
        if (c.peek?.map isLineEnd).getD false then do
          let (first, c) := c.lineBreak
          let (breaks, c) ← quotedBreaks fuel c
          let (more, c) ← readQuoted double fuel c
          .ok (foldedBreak first breaks ++ more, c)
        else do
          let (more, c) ← readQuoted double fuel c
          .ok (blanks ++ more, c)
      else do
        let (more, c) ← readQuoted double fuel c.step
        .ok (x :: more, c)

/-- Which line feeds stay at the end of a block scalar. -/
inductive Chomping where
  | strip | clip | keep
  deriving DecidableEq, Repr

/-- The chomping that a mark asks for. -/
def chomping? (c : Option Char) : Option Chomping :=
  if c == some '+' then some .keep else if c == some '-' then some .strip else none

/-- The digit that gives the indentation of a block scalar, where it is not found out from the text. -/
def increment (c : Cursor) : Except Refusal (Option Nat × Cursor) :=
  match c.peek? with
  | some x =>
    if x == '0' then .error .malformed
    else if x.isDigit then .ok (some (x.toNat - 48), c.step)
    else .ok (none, c)
  | none => .ok (none, c)

/-- The header of a block scalar: its chomping and its indentation, to the end of the line. -/
def blockHeader (c : Cursor) : Except Refusal (Chomping × Option Nat × Cursor) := do
  let (chomping, number, c) ←
    match chomping? c.peek? with
    | some k => do
      let (number, c) ← increment c.step
      pure (k, number, c)
    | none => do
      let (number, c) ← increment c
      match number, chomping? c.peek? with
      | some n, some k => pure (k, some n, c.step)
      | _, _ => pure (.clip, number, c)
  if !endsWord c.peek? || c.peek? == some '\t' then .error .malformed
  else
    let (_, c) := c.span (· == ' ')
    let c := if c.peek? == some '#' then (c.span (fun x => !isLineEnd x)).2 else c
    if endsLine c.peek? then .ok (chomping, number, c.lineBreak.2) else .error .malformed

/-- The empty lines at the start of a block scalar, the greatest column that their spaces reach, and the place
after them. -/
def leadingBreaks : Nat → Nat → Cursor → Chars × Nat × Cursor
  | 0, widest, c => ([], widest, c)
  | fuel + 1, widest, c =>
    match c.peek? with
    | some x =>
      if x == ' ' then leadingBreaks fuel (max widest c.step.column) c.step
      else if isLineEnd x then
        let (first, c) := c.lineBreak
        let (more, widest, c) := leadingBreaks fuel widest c
        (first ++ more, widest, c)
      else ([], widest, c)
    | none => ([], widest, c)

/-- A place after up to so many spaces as it takes to reach a column. -/
def toColumn (column : Nat) (c : Cursor) : Cursor :=
  c.skip (min (column - c.column) (c.rest.takeWhile (· == ' ')).length)

/-- The empty lines inside a block scalar of an indentation, and the place after them. -/
def innerBreaks (indent : Nat) : Nat → Cursor → Chars × Cursor
  | 0, c => ([], c)
  | fuel + 1, c =>
    let c := toColumn indent c
    if (c.peek?.map isLineEnd).getD false then
      let (first, c) := c.lineBreak
      let (more, c) := innerBreaks indent fuel c
      (first ++ more, c)
    else ([], c)

/-- The lines of a block scalar from one of its lines on, with the empty lines before that. -/
def blockLines (folded : Bool) (chomping : Chomping) (indent : Nat) : Nat → Chars → Cursor → Chars × Cursor
  | 0, breaks, c => (breaks, c)
  | fuel + 1, breaks, c =>
    if c.column == indent && c.peek?.isSome then
      let blankStart := (c.peek?.map Text.isInlineBlank).getD false
      let (text, c) := c.span (fun x => !isLineEnd x)
      let (first, c) := c.lineBreak
      let (later, c) := innerBreaks indent fuel c
      if c.column == indent && c.peek?.isSome then
        let joint :=
          if folded && first == ['\n'] && !blankStart && !(c.peek?.map Text.isInlineBlank).getD false then
            if later.isEmpty then [' '] else []
          else first
        let (more, c) := blockLines folded chomping indent fuel later c
        (breaks ++ text ++ joint ++ more, c)
      else
        let ending :=
          match chomping with
          | .strip => []
          | .clip => first
          | .keep => first ++ later
        (breaks ++ text ++ ending, c)
    else (if chomping = .keep then breaks else [], c)

/-- A block scalar inside a collection of an indentation. -/
def readBlock (folded : Bool) (parent : Int) (c : Cursor) : Except Refusal (Chars × Cursor) := do
  let (chomping, number, c) ← blockHeader c.step
  let least := max 1 (parent + 1).toNat
  let fuel := c.rest.length + 1
  match number with
  | some n =>
    let indent := least + n - 1
    let (breaks, c) := innerBreaks indent fuel c
    return blockLines folded chomping indent fuel breaks c
  | none =>
    let (breaks, widest, c) := leadingBreaks fuel 0 c
    return blockLines folded chomping (max least widest) fuel breaks c

/-- Whether a plain scalar ends before a character, given the one after it. -/
def endsPlain (inFlow : Bool) (x : Char) (next : Option Char) : Bool :=
  endsWord (some x) ||
    (x == ':' && (endsWord next || (inFlow && (next.map (",[]\x7b\x7d".toList.contains ·)).getD false))) ||
    (inFlow && ",?[]\x7b\x7d".toList.contains x)

/-- The characters of a plain scalar up to a blank or a mark. -/
def plainWord (inFlow : Bool) : Chars → Chars
  | [] => []
  | x :: rest => if endsPlain inFlow x rest.head? then [] else x :: plainWord inFlow rest

/-- The ends of empty lines after the end of a line inside a plain scalar, and the place after them; nothing
before a mark between documents. -/
def plainBreaks : Nat → Cursor → Option (Chars × Cursor)
  | 0, _ => none
  | fuel + 1, c =>
    let (_, c) := c.span (· == ' ')
    if (c.peek?.map isLineEnd).getD false then
      let (first, c) := c.lineBreak
      if isDocumentMark c.rest then none
      else (plainBreaks fuel c).map (fun (more, c) => (first ++ more, c))
    else some ([], c)

/-- The blanks after a word of a plain scalar: the text that stands for them, whether a line ended, and the place
after them. -/
def plainGap (c : Cursor) : Chars × Bool × Cursor :=
  let (spaces, c) := c.span (· == ' ')
  if (c.peek?.map isLineEnd).getD false then
    let (first, after) := c.lineBreak
    if isDocumentMark after.rest then ([], true, after)
    else
      match plainBreaks (after.rest.length + 1) after with
      | none => ([], true, afterBreaks after.rest.length after)
      | some (breaks, c) => (foldedBreak first breaks, true, c)
  else (spaces, false, c)
where
  /-- The place before a mark between documents that follows empty lines. -/
  afterBreaks : Nat → Cursor → Cursor
    | 0, c => c
    | fuel + 1, c =>
      if isDocumentMark c.rest then c
      else
        let (_, c) := c.span (· == ' ')
        if (c.peek?.map isLineEnd).getD false then afterBreaks fuel c.lineBreak.2 else c

/-- A plain scalar that starts with a gap's text, inside a collection of an indentation; and whether a line ended
after its last word. -/
def readPlain (inFlow : Bool) (parent : Int) : Nat → Chars → Bool → Cursor → Chars × Bool × Cursor
  | 0, _, broken, c => ([], broken, c)
  | fuel + 1, gap, broken, c =>
    let word := if c.peek? == some '#' then [] else plainWord inFlow c.rest
    if word.isEmpty then ([], broken, c)
    else
      let (after, broken, c) := plainGap (c.skip word.length)
      if after.isEmpty || c.peek? == some '#' || (!inFlow && (c.column : Int) < parent + 1) then
        (gap ++ word, broken, c)
      else
        let (more, broken, c) := readPlain inFlow parent fuel after broken c
        (gap ++ word ++ more, broken, c)

/-- Whether a character may stand in a tag. -/
def isTagChar (c : Char) : Bool :=
  c.isAlphanum || "-;/?:@&=+$,_.!~*'()[]%".toList.contains c

/-- The tag behind a mark. -/
def readTag (c : Cursor) : Except Refusal (Lexeme × Cursor) := do
  let (t, c) ←
    if c.second? == some '<' then
      let (uri, c) := (c.skip 2).span isTagChar
      if uri.isEmpty || c.peek? != some '>' then .error .malformed else pure (Lexeme.tag none uri, c.step)
    else if endsWord c.second? then pure (Lexeme.tag none ['!'], c.step)
    else
      let word := (c.rest.drop 1).takeWhile (fun x => !(isLineEnd x || x == ' ' || x == '!'))
      let handled := (c.rest.drop (word.length + 1)).head? == some '!'
      if handled && !word.all isNameChar then .error .malformed
      else
        let handle : Chars := if handled then '!' :: word ++ ['!'] else ['!']
        let (suffix, c) := (c.skip handle.length).span isTagChar
        if suffix.isEmpty then .error .malformed else pure (Lexeme.tag (some handle) suffix, c)
  if endsLine c.peek? || c.peek? == some ' ' then .ok (t, c) else .error .malformed

/-- A directive, to the end of its line. Only the first version of the language can be read. -/
def readDirective (c : Cursor) : Except Refusal (Lexeme × Cursor) := do
  let (name, after) := c.step.span isNameChar
  if name.isEmpty || !(endsLine after.peek? || after.peek? == some ' ') then .error .malformed
  else
    let (line, next) := after.span (fun x => !isLineEnd x)
    let words := (Chars.splitAt ' ' (line.takeWhile (· != '#'))).filter (fun w => !w.isEmpty)
    let l ←
      if name == "YAML".toList then
        match words with
        | [version] =>
          match Chars.splitAt '.' version with
          | [['1'], minor] =>
            if !minor.isEmpty && minor.all Char.isDigit then pure (Lexeme.directive none) else .error .malformed
          | _ => .error .malformed
        | _ => .error .malformed
      else if name == "TAG".toList then
        match words with
        | [handle, tagStart] =>
          if handle.head? == some '!' && handle.getLast? == some '!' && tagStart.all isTagChar then
            pure (Lexeme.directive (some (handle, tagStart)))
          else .error .malformed
        | _ => .error .malformed
      else pure (Lexeme.directive none)
    .ok (l, next.lineBreak.2)

end Lexeme

end MixedScript.Yaml
