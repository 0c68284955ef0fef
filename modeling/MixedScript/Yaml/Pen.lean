import MixedScript.Yaml.Plain

/-!
Writing scalars. A pen knows the column it stands at, and whether what it wrote last was whitespace or only
indentation; long scalars are folded where they have a single space beyond the eightieth column.
-/

namespace MixedScript.Yaml

/-- The place where writing goes on. -/
structure Pen where
  /-- What has been written, last character first. -/
  written : Chars
  /-- The number of characters on the current line. -/
  column : Nat
  /-- Whether whitespace was written last. -/
  afterSpace : Bool
  /-- Whether the current line holds only indentation and indicators of blocks. -/
  onlyIndent : Bool
  deriving Repr

namespace Pen

/-- A pen at the start of a text. -/
def start : Pen := ⟨[], 0, true, true⟩

/-- The column beyond which lines are folded. -/
def width : Nat := 80

/-- Writes characters of the current line. -/
def put (p : Pen) (cs : Chars) : Pen :=
  { p with written := cs.reverse ++ p.written, column := p.column + cs.length }

/-- Ends the current line. -/
def newline (p : Pen) : Pen :=
  ⟨'\n' :: p.written, 0, true, true⟩

/-- Goes to an indentation, on a new line unless the current one has nothing beyond it. -/
def indentTo (p : Pen) (indent : Nat) : Pen :=
  let p := if !p.onlyIndent || indent < p.column || (p.column == indent && !p.afterSpace) then p.newline else p
  if p.column < indent then
    { p.put (List.replicate (indent - p.column) ' ') with afterSpace := true }
  else p

/-- Writes an indicator, after a space where one is needed. `space` says whether it counts as whitespace
itself and `indents` whether it counts as indentation. -/
def indicator (p : Pen) (cs : Chars) (needsSpace space indents : Bool) : Pen :=
  let p := if p.afterSpace || !needsSpace then p.put cs else p.put (' ' :: cs)
  { p with afterSpace := space, onlyIndent := p.onlyIndent && indents }

end Pen

/-- A line break inside a scalar. -/
def isBreak (c : Char) : Bool :=
  c == '\n' || c == '\u0085' || c == '\u2028' || c == '\u2029'

/-- Whitespace or a line break. -/
def isBreakOrSpace (c : Char) : Bool :=
  isBreak c || c == ' ' || c == '\t' || c == '\r' || c == '\x00'

/-- Whether a character may stand in a scalar that is not escaped. -/
def isPrintable (c : Char) : Bool :=
  let n := c.toNat
  n == 0xA || (0x20 ≤ n && n ≤ 0x7E) || n == 0x85 || (0xA0 ≤ n && n ≤ 0xD7FF) ||
    (0xE000 ≤ n && n ≤ 0xFFFD && n != 0xFEFF) || (0x10000 ≤ n && n < 0x10FFFF)

/-- Whether a character at the start of a scalar can be read as an indicator of a block. -/
def opensBlock (c : Char) (next : Option Char) : Bool :=
  let alone := (next.map isBreakOrSpace).getD true
  ['#', ',', '[', ']', '\x7b', '\x7d', '&', '*', '!', '|', '>', '\x27', '\x22', '%', '@', '\x60'].contains c ||
    ((c == '?' || c == ':' || c == '-') && alone)

/-- Whether a scalar holds a colon before whitespace or a number sign after it, or starts like an
indicator. -/
def hasIndicators : Option Char → Chars → Bool
  | _, [] => false
  | before, c :: rest =>
    (match before with
      | none => opensBlock c rest.head?
      | some b => (c == ':' && (rest.head?.map isBreakOrSpace).getD true) || (c == '#' && isBreakOrSpace b)) ||
    hasIndicators (some c) rest

/-- Whether a scalar holds a pair of characters. -/
def hasPair (first second : Char → Bool) : Chars → Bool
  | a :: b :: rest => (first a && second b) || hasPair first second (b :: rest)
  | _ => false

/-- Whether a space or a break stands at an end of a scalar. -/
def hasLooseEnds (cs : Chars) : Bool :=
  let loose (c : Option Char) : Bool := (c.map (fun c => c == ' ' || isBreak c)).getD false
  loose cs.head? || loose cs.getLast?

/-- Whether a text may be written plain outside of flow collections. -/
def allowsPlain (cs : Chars) : Bool :=
  cs.isEmpty ||
    !(hasLooseEnds cs || cs.any isBreak || !cs.all isPrintable || hasIndicators none cs ||
      (Chars.after? ['-', '-', '-'] cs).isSome || (Chars.after? ['.', '.', '.'] cs).isSome)

/-- Whether a text may be written in single quotes. -/
def allowsSingle (cs : Chars) : Bool :=
  cs.all isPrintable && !hasPair isBreak (· == ' ') cs && !hasPair (· == ' ') isBreak cs

/-- How a scalar is written. -/
inductive Style where
  | plain | single | double
  deriving DecidableEq, Repr

/-- The style of a text; `resolves` says whether the plain form stands for the value, and `key` whether it
is written as a key on one line. -/
def styleOf (resolves key : Bool) (cs : Chars) : Style :=
  if resolves && !(key && (cs.isEmpty || cs.any isBreak)) && allowsPlain cs then .plain
  else if allowsSingle cs && !(key && cs.any isBreak) then .single
  else .double

/-- Writes a run of spaces: a single one beyond the width becomes a line end where folding is allowed. -/
def Pen.spaces (p : Pen) (indent n : Nat) (mayFold : Bool) : Pen :=
  if n == 1 && Pen.width < p.column && mayFold then p.indentTo indent
  else p.put (List.replicate n ' ')

/-- Writes a plain text word by word, folding where that is allowed; `n` spaces have been read. -/
def writePlainFrom (indent : Nat) (fold : Bool) : Nat → Pen → Chars → Pen
  | n, p, [] => if n == 0 then p else p.spaces indent n fold
  | n, p, c :: rest =>
    if c == ' ' then writePlainFrom indent fold (n + 1) p rest
    else
      let p := if n == 0 then p else { p.spaces indent n fold with afterSpace := false, onlyIndent := false }
      writePlainFrom indent fold 0 (p.put [c]) rest

/-- Writes a plain text. -/
def writePlain (indent : Nat) (fold : Bool) (p : Pen) (cs : Chars) : Pen :=
  if cs.isEmpty then p
  else
    let p := if p.afterSpace then p else p.put [' ']
    writePlainFrom indent fold 0 { p with afterSpace := false, onlyIndent := false } cs

/-- Writes line breaks inside single quotes: a line feed is doubled, the others are written as they are. -/
def Pen.breaks (p : Pen) (indent : Nat) (cs : Chars) : Pen :=
  let p := if cs.head? == some '\n' then p.newline else p
  let p := cs.foldl (fun p c => if c == '\n' then p.newline
    else { p.newline with written := c :: p.written }) p
  p.indentTo indent

/-- What has been read and not yet written inside single quotes. -/
inductive Waiting where
  | nothing
  | spaces (n : Nat)
  | breaks (cs : Chars)

/-- Writes what is waiting. -/
def Waiting.flush (w : Waiting) (indent : Nat) (mayFold : Bool) (p : Pen) : Pen :=
  match w with
  | nothing => p
  | spaces n => p.spaces indent n mayFold
  | breaks cs => p.breaks indent cs

/-- Writes a text inside single quotes; `first` says that nothing but spaces came before. -/
def writeSingleFrom (indent : Nat) (fold : Bool) : Bool → Waiting → Pen → Chars → Pen
  | _, w, p, [] => w.flush indent false p
  | first, w, p, c :: rest =>
    if c == ' ' then
      match w with
      | .spaces n => writeSingleFrom indent fold first (.spaces (n + 1)) p rest
      | _ => writeSingleFrom indent fold first (.spaces 1) (w.flush indent (fold && !first) p) rest
    else if isBreak c then
      match w with
      | .breaks cs => writeSingleFrom indent fold false (.breaks (cs ++ [c])) p rest
      | _ => writeSingleFrom indent fold false (.breaks [c]) (w.flush indent (fold && !first) p) rest
    else
      let p := w.flush indent (fold && !first) p
      writeSingleFrom indent fold false .nothing (p.put (if c == '\x27' then ['\x27', '\x27'] else [c])) rest

/-- Writes a text in single quotes. -/
def writeSingle (indent : Nat) (fold : Bool) (p : Pen) (cs : Chars) : Pen :=
  let p := p.indicator ['\x27'] true false false
  (writeSingleFrom indent fold true .nothing p cs).indicator ['\x27'] false false false

/-- Letters that stand for characters after a backslash. -/
def escapeLetters : List (Char × Char) := [
  ('\x00', '0'), ('\x07', 'a'), ('\x08', 'b'), ('\t', 't'), ('\n', 'n'), ('\x0b', 'v'), ('\x0c', 'f'),
  ('\r', 'r'), ('\x1b', 'e'), ('\x22', '\x22'), ('\\', '\\'), ('\u0085', 'N'), ('\u00a0', '_'),
  ('\u2028', 'L'), ('\u2029', 'P')]

/-- A number in capital hexadecimal digits, filled up with zeros to a width. -/
def hexCapital (width n : Nat) : Chars :=
  let ds := (Nat.toDigits 16 n).map Char.toUpper
  List.replicate (width - ds.length) '0' ++ ds

/-- The escaped form of a character. -/
def escaped (c : Char) : Chars :=
  match escapeLetters.lookup c with
  | some letter => ['\\', letter]
  | none =>
    if c.toNat ≤ 0xFF then '\\' :: 'x' :: hexCapital 2 c.toNat
    else if c.toNat ≤ 0xFFFF then '\\' :: 'u' :: hexCapital 4 c.toNat
    else '\\' :: 'U' :: hexCapital 8 c.toNat

/-- Whether a character is escaped inside double quotes. -/
def needsEscape (c : Char) : Bool :=
  let n := c.toNat
  c == '\x22' || c == '\\' || isBreak c || n == 0xFEFF ||
    !((0x20 ≤ n && n ≤ 0x7E) || (0xA0 ≤ n && n ≤ 0xD7FF) || (0xE000 ≤ n && n ≤ 0xFFFD))

/-- Writes a text inside double quotes. `run` holds the characters read and not yet written, last first, and
`place` is the position of the next character among `total`. -/
def writeDoubleFrom (indent : Nat) (fold : Bool) (total : Nat) : Nat → Chars → Pen → Chars → Pen
  | _, run, p, [] => p.put run.reverse
  | place, run, p, c :: rest =>
    let (p, run, empty) :=
      if needsEscape c then ((p.put run.reverse).put (escaped c), [], true) else (p, run, false)
    let reached := if empty then p.column - 1 else p.column + run.length
    if 0 < place && place + 1 < total && (c == ' ' || run.isEmpty) && Pen.width < reached && fold then
      let p := (p.put (run.reverse ++ ['\\'])).indentTo indent
      let p := { p with afterSpace := false, onlyIndent := false }
      let next : Option Char := if empty then rest.head? else some c
      let p := if next == some ' ' then p.put ['\\'] else p
      if empty then writeDoubleFrom indent fold total (place + 1) [] p rest
      else writeDoubleFrom indent fold total (place + 1) [c] p rest
    else
      let run := if empty then [] else c :: run
      writeDoubleFrom indent fold total (place + 1) run p rest

/-- Writes a text in double quotes. -/
def writeDouble (indent : Nat) (fold : Bool) (p : Pen) (cs : Chars) : Pen :=
  let p := p.indicator ['\x22'] true false false
  (writeDoubleFrom indent fold cs.length 0 [] p cs).indicator ['\x22'] false false false

end MixedScript.Yaml
