import MixedScript.Yaml.Lexeme

/-!
The layout of a document. Collections by indentation get lexemes for their starts and ends, and a scalar or a
flow collection that turns out to be a key gets a key lexeme in front of it: such a key stands on one line and
is not longer than 1024 characters.
-/

namespace MixedScript.Yaml

/-- A place where a key may have started. -/
structure Candidate where
  /-- The number of lexemes before it. -/
  place : Nat
  /-- Whether nothing but a key may stand there. -/
  required : Bool
  /-- The place in the text. -/
  cursor : Cursor

/-- A document as far as its lexemes have been found. -/
structure Layout where
  /-- The place in the text. -/
  cursor : Cursor
  /-- The indentation of the innermost collection by indentation, -1 outside of any. -/
  indent : Int := -1
  /-- The indentations around it. -/
  outer : List Int := []
  /-- Whether a key may start here. -/
  mayKey : Bool := true
  /-- Where the key that is waited for may have started, for each flow collection from the innermost on, and last
  for what is outside of all. -/
  candidates : List (Option Candidate) := [none]
  /-- The lexemes, the latest first. -/
  lexemes : List Lexeme := []

namespace Layout

/-- Whether the place is inside a flow collection. -/
def inFlow (l : Layout) : Bool :=
  1 < l.candidates.length

/-- The layout with one more lexeme. -/
def emit (l : Layout) (x : Lexeme) : Layout :=
  { l with lexemes := x :: l.lexemes }

/-- The layout where a key may start, or may not. -/
def allowKey (l : Layout) (b : Bool) : Layout :=
  { l with mayKey := b }

/-- The layout with some lexemes put after the first `place` ones. -/
def insertAt (l : Layout) (place : Nat) (xs : List Lexeme) : Layout :=
  let later := l.lexemes.length - place
  { l with lexemes := l.lexemes.take later ++ xs.reverse ++ l.lexemes.drop later }

/-- The collections by indentation that end before a column are closed. -/
def closeTo (column : Int) : Nat → Layout → Layout
  | 0, l => l
  | fuel + 1, l =>
    if column < l.indent then
      closeTo column fuel
        { l with indent := l.outer.head?.getD (-1), outer := l.outer.drop 1, lexemes := .blockEnd :: l.lexemes }
    else l

/-- The collections by indentation that end before a column are closed, outside of flow collections. -/
def unwind (l : Layout) (column : Int) : Layout :=
  if l.inFlow then l else closeTo column (l.outer.length + 1) l

/-- Whether a collection by indentation starts at a column, and the layout inside of it. -/
def deepen (l : Layout) (column : Int) : Bool × Layout :=
  if l.indent < column then (true, { l with indent := column, outer := l.indent :: l.outer }) else (false, l)

/-- The candidates that can still become keys here; a required one that cannot is a fault. -/
def fresh (c : Cursor) : List (Option Candidate) → Except Refusal (List (Option Candidate))
  | [] => .ok []
  | k :: rest => do
    let rest ← fresh c rest
    match k with
    | some k =>
      if k.cursor.line != c.line || k.cursor.index + 1024 < c.index then
        if k.required then .error .malformed else .ok (none :: rest)
      else .ok (some k :: rest)
    | none => .ok (none :: rest)

/-- The layout without the innermost candidate; a required one is a fault. -/
def dropCandidate (l : Layout) : Except Refusal Layout :=
  match l.candidates with
  | some k :: rest => if k.required then .error .malformed else .ok { l with candidates := none :: rest }
  | _ => .ok l

/-- The layout with a candidate here, if a key may start here. -/
def addCandidate (l : Layout) : Except Refusal Layout :=
  if l.mayKey then do
    let l ← l.dropCandidate
    let k : Candidate := ⟨l.lexemes.length, !l.inFlow && l.indent == l.cursor.column, l.cursor⟩
    return { l with candidates := some k :: l.candidates.drop 1 }
  else .ok l

/-- The place of the next lexeme: spaces, comments and ends of lines are passed over. After the end of a line a
key may start, outside of flow collections. -/
def toNext : Nat → Layout → Layout
  | 0, l => l
  | fuel + 1, l =>
    let (_, c) := l.cursor.span (· == ' ')
    let c := if c.peek? == some '#' then (c.span (fun x => !isLineEnd x)).2 else c
    if (c.peek?.map isLineEnd).getD false then
      toNext fuel { l with cursor := c.lineBreak.2, mayKey := l.mayKey || !l.inFlow }
    else { l with cursor := c }

/-- A mark that takes `width` characters and makes a lexeme. -/
def mark (l : Layout) (width : Nat) (x : Lexeme) : Layout :=
  { l with cursor := l.cursor.skip width, lexemes := x :: l.lexemes }

/-- The layout after everything by indentation and every candidate has ended. -/
def closeAll (l : Layout) : Except Refusal Layout := do
  let l ← (l.unwind (-1)).dropCandidate
  return { l with mayKey := false }

/-- A lexeme that starts a node, read from the place. -/
def node (l : Layout) (read : Except Refusal (Lexeme × Cursor)) : Except Refusal Layout := do
  let l ← l.addCandidate
  let (x, c) ← read
  return { l with cursor := c, mayKey := false, lexemes := x :: l.lexemes }

/-- The mark of an item by indentation. -/
def item (l : Layout) : Except Refusal Layout := do
  let l ←
    if l.inFlow then pure l
    else if !l.mayKey then .error .malformed
    else
      let (starts, l) := l.deepen l.cursor.column
      pure (if starts then l.emit .blockSequence else l)
  let l ← (l.allowKey true).dropCandidate
  return l.mark 1 .item

/-- The mark of a key. -/
def key (l : Layout) : Except Refusal Layout := do
  let l ←
    if l.inFlow then pure l
    else if !l.mayKey then .error .malformed
    else
      let (starts, l) := l.deepen l.cursor.column
      pure (if starts then l.emit .blockMapping else l)
  let l ← (l.allowKey !l.inFlow).dropCandidate
  return l.mark 1 .key

/-- The mark of a value. The candidate, if there is one, becomes a key. -/
def value (l : Layout) : Except Refusal Layout := do
  let l ←
    match l.candidates with
    | some k :: rest =>
      let l := { l with candidates := none :: rest }
      let (starts, l) := if l.inFlow then (false, l) else l.deepen k.cursor.column
      pure ((l.insertAt k.place (if starts then [.blockMapping, .key] else [.key])).allowKey false)
    | _ =>
      if l.inFlow then (l.allowKey false).dropCandidate
      else if !l.mayKey then .error .malformed
      else
        let (starts, l) := l.deepen l.cursor.column
        ((if starts then l.emit .blockMapping else l).allowKey true).dropCandidate
  return l.mark 1 .value

/-- The start of a flow collection. -/
def openFlow (l : Layout) (x : Lexeme) : Except Refusal Layout := do
  let l ← l.addCandidate
  return { l.mark 1 x with candidates := none :: l.candidates, mayKey := true }

/-- The end of a flow collection. -/
def closeFlow (l : Layout) (x : Lexeme) : Except Refusal Layout := do
  let l ← l.dropCandidate
  let candidates := if l.inFlow then l.candidates.drop 1 else l.candidates
  return { l.mark 1 x with candidates := candidates, mayKey := false }

/-- A plain scalar. After one that ends with its line a key may start. -/
def plainScalar (l : Layout) : Except Refusal Layout := do
  let l ← l.addCandidate
  let (text, broken, c) := Lexeme.readPlain l.inFlow l.indent (l.cursor.rest.length + 1) [] false l.cursor
  return { l with cursor := c, mayKey := broken, lexemes := .scalar text true :: l.lexemes }

def blockScalar (l : Layout) (folded : Bool) : Except Refusal Layout := do
  let l ← (l.allowKey true).dropCandidate
  let (text, c) ← Lexeme.readBlock folded l.indent l.cursor
  return { l with cursor := c, lexemes := .scalar text false :: l.lexemes }

def quotedScalar (l : Layout) (double : Bool) : Except Refusal Layout :=
  l.node (do
    let (text, c) ← Lexeme.readQuoted double (l.cursor.rest.length + 1) l.cursor.step
    return (.scalar text false, c))

/-- Whether a plain scalar may start with a character, given the one after it. -/
def startsPlain (inFlow : Bool) (x : Char) (next : Option Char) : Bool :=
  !(endsWord (some x) || "-?:,[]\x7b\x7d#&*!|>\x27\x22%@\x60".toList.contains x) ||
    (!endsWord next && (x == '-' || (!inFlow && (x == '?' || x == ':'))))

/-- The layout with the next lexeme; the place is at its start. -/
def lexeme (l : Layout) (x : Char) : Except Refusal Layout :=
  let next := l.cursor.second?
  let column := l.cursor.column
  if x == '%' && column == 0 then do
    let l ← l.closeAll
    let (d, c) ← Lexeme.readDirective l.cursor
    return { l with cursor := c, lexemes := d :: l.lexemes }
  else if column == 0 && isDocumentMark l.cursor.rest then do
    let l ← l.closeAll
    return l.mark 3 (if x == '-' then .documentStart else .documentEnd)
  else if x == '[' then l.openFlow .openSequence
  else if x == '\x7b' then l.openFlow .openMapping
  else if x == ']' then l.closeFlow .closeSequence
  else if x == '\x7d' then l.closeFlow .closeMapping
  else if x == ',' then do
    let l ← (l.allowKey true).dropCandidate
    return l.mark 1 .separator
  else if x == '-' && endsWord next then l.item
  else if x == '?' && (l.inFlow || endsWord next) then l.key
  else if x == ':' && (l.inFlow || endsWord next) then l.value
  else if x == '*' then l.node ((Lexeme.readName l.cursor).map (fun (n, c) => (.alias n, c)))
  else if x == '&' then l.node ((Lexeme.readName l.cursor).map (fun (n, c) => (.anchor n, c)))
  else if x == '!' then l.node (Lexeme.readTag l.cursor)
  else if x == '|' && !l.inFlow then l.blockScalar false
  else if x == '>' && !l.inFlow then l.blockScalar true
  else if x == '\x27' then l.quotedScalar false
  else if x == '\x22' then l.quotedScalar true
  else if startsPlain l.inFlow x next then l.plainScalar
  else .error .malformed

/-- The lexemes from a place on to the end of the text. -/
def toEnd : Nat → Layout → Except Refusal (List Lexeme)
  | 0, _ => .error .malformed
  | fuel + 1, l => do
    let l := toNext (l.cursor.rest.length + 1) l
    let candidates ← fresh l.cursor l.candidates
    let l := { l with candidates := candidates }.unwind l.cursor.column
    match l.cursor.peek? with
    | none => do
      let l ← l.closeAll
      return (Lexeme.streamEnd :: l.lexemes).reverse
    | some x => toEnd fuel (← l.lexeme x)

end Layout

/-- Whether a character may stand in a document. -/
def isAllowed (c : Char) : Bool :=
  c == '\t' || c == '\n' || c == '\r' || (' ' ≤ c && c ≤ '~') || c == '\u0085' ||
    ('\u00A0' ≤ c && c ≤ '\uD7FF') || ('\uE000' ≤ c && c ≤ '\uFFFD') || '\uFFFF' < c

/-- The lexemes of a text. A byte order mark at its start is passed over. -/
def lexemes (cs : Chars) : Except Refusal (List Lexeme) :=
  if cs.all isAllowed then
    let start : Cursor := ⟨cs, 0, 0, 0⟩
    Layout.toEnd (cs.length + 2) { cursor := if cs.head? == some '\uFEFF' then start.step else start }
  else .error .malformed

end MixedScript.Yaml
