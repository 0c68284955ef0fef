import MixedScript.Text.Digits
import MixedScript.Value

/-!
Reading of JSON. Besides the numbers of the standard the words `NaN`, `Infinity` and `-Infinity` stand for
floats. A member that is repeated takes its last value. Integers have a limited number of digits, and
collections stand in one another to a limited depth.
-/

namespace MixedScript.Json

/-- Whether a character may stand between the parts of a document. -/
def isBlank (c : Char) : Bool :=
  c == ' ' || c == '\t' || c == '\n' || c == '\r'

/-- A text without the blanks at its start. -/
def skipBlanks (cs : Chars) : Chars :=
  cs.dropWhile isBlank

/-- What an escape of one character stands for. -/
def escapes : List (Char × Char) := [
  ('\x22', '\x22'), ('\\', '\\'), ('/', '/'), ('b', '\x08'), ('f', '\x0c'), ('n', '\n'), ('r', '\r'), ('t', '\t')]

/-- The character of a unit of sixteen bits. Half of a pair is none, and the character for such stands in its
place. -/
def unitChar (unit : Nat) : Char :=
  if 0xD800 ≤ unit && unit ≤ 0xDFFF then '\uFFFD' else Char.ofNat unit

/-- The character of one or two units of sixteen bits, the first of which is given, and what follows. -/
def unitsChar (unit : Nat) (rest : Chars) : Char × Chars :=
  match rest with
  | '\\' :: 'u' :: more =>
    match Text.hexNumber? 4 more with
    | some low =>
      if 0xD800 ≤ unit && unit ≤ 0xDBFF && 0xDC00 ≤ low && low ≤ 0xDFFF then
        (Char.ofNat (0x10000 + 0x400 * (unit - 0xD800) + (low - 0xDC00)), more.drop 4)
      else (unitChar unit, rest)
    | none => (unitChar unit, rest)
  | _ => (unitChar unit, rest)

/-- The content of a string after its opening quote, and what follows its closing one. -/
def readString : Nat → Chars → Option (Chars × Chars)
  | 0, _ => none
  | _, [] => none
  | _ + 1, '\x22' :: rest => some ([], rest)
  | fuel + 1, '\\' :: 'u' :: rest => do
    let unit ← Text.hexNumber? 4 rest
    let (c, rest) := unitsChar unit (rest.drop 4)
    let (cs, rest) ← readString fuel rest
    some (c :: cs, rest)
  | fuel + 1, '\\' :: e :: rest => do
    let c ← escapes.lookup e
    let (cs, rest) ← readString fuel rest
    some (c :: cs, rest)
  | fuel + 1, c :: rest =>
    if c == '\\' || c.toNat < 0x20 then none
    else (readString fuel rest).map (fun (cs, rest) => (c :: cs, rest))

/-- Digits at the start of a text and what follows them. -/
def spanDigits (cs : Chars) : Chars × Chars :=
  (cs.takeWhile Char.isDigit, cs.dropWhile Char.isDigit)

/-- The digits after a point, if there are any, and what follows them. -/
def readFraction (cs : Chars) : Option (Chars × Chars) :=
  match cs with
  | '.' :: rest => if (spanDigits rest).1.isEmpty then none else some (spanDigits rest)
  | _ => none

/-- An exponent, if there is one, and what follows it. -/
def readExponent (cs : Chars) : Option (Int × Chars) :=
  match cs with
  | e :: rest =>
    if e == 'e' || e == 'E' then
      let (negative, more) := Text.splitSign rest
      let (ds, more) := spanDigits more
      if ds.isEmpty then none
      else some (if negative then -(Text.decimalValue ds : Int) else Text.decimalValue ds, more)
    else none
  | [] => none

/-- A number without sign, and what follows it. It is an integer unless it has a fraction or an exponent. -/
def readNumber (negative : Bool) (cs : Chars) : Except Refusal (Scalar × Chars) :=
  let (whole, rest) := match cs with
    | '0' :: rest => (['0'], rest)
    | _ => spanDigits cs
  if whole.isEmpty then .error .malformed
  else
    let fraction := readFraction rest
    let (places, rest) := fraction.getD ([], rest)
    let exponent := readExponent rest
    let (power, rest) := exponent.getD (0, rest)
    if fraction.isNone && exponent.isNone then do
      let n ← (Text.integerValue whole).mapError .value
      return (.int (if negative then -(n : Int) else n), rest)
    else return (.float (.ofDecimal negative (Text.decimalValue (whole ++ places)) (power - places.length)), rest)

/-- Words that stand for values. -/
def words : List (String × Scalar) := [
  ("null", .null), ("true", .bool true), ("false", .bool false), ("NaN", .float .undefined),
  ("Infinity", .float (.infinite false)), ("-Infinity", .float (.infinite true))]

/-- The value of a word at the start of a text, and what follows it. -/
def readWord (cs : Chars) : Option (Scalar × Chars) :=
  words.findSome? (fun (word, s) => (Chars.after? word.toList cs).map (fun rest => (s, rest)))

/-- How deep collections may stand in one another. -/
def depthLimit : Nat := 980

mutual

/-- A value at the start of a text, where collections may stand to a depth, and what follows. -/
def readValue : Nat → Nat → Chars → Except Refusal (Value × Chars)
  | 0, _, _ | _, _, [] => .error .malformed
  | fuel + 1, depth, c :: rest =>
    if c == '\x22' then
      (Refusal.ofForm (readString (rest.length + 1) rest)).map (fun (cs, rest) => (.str (String.ofList cs), rest))
    else if c == '[' then
      if depth == 0 then .error (.value .tooDeep)
      else
        match skipBlanks rest with
        | ']' :: rest => .ok (.list [], rest)
        | rest => (readItems fuel (depth - 1) rest).map (fun (items, rest) => (.list items, rest))
    else if c == '\x7b' then
      if depth == 0 then .error (.value .tooDeep)
      else
        match skipBlanks rest with
        | '\x7d' :: rest => .ok (.map [], rest)
        | rest =>
          (readMembers fuel (depth - 1) rest).map (fun (members, rest) => (.map (Mapping.ofEntries members), rest))
    else
      match readWord (c :: rest) with
      | some (s, rest) => .ok (.scalar s, rest)
      | none =>
        (if c == '-' then readNumber true rest else readNumber false (c :: rest)).map
          (fun (s, rest) => (.scalar s, rest))

/-- The items of a list from one of them on, and what follows the closing bracket. -/
def readItems : Nat → Nat → Chars → Except Refusal (List Value × Chars)
  | 0, _, _ => .error .malformed
  | fuel + 1, depth, cs => do
    let (v, rest) ← readValue fuel depth cs
    match skipBlanks rest with
    | ',' :: rest =>
      let (items, rest) ← readItems fuel depth (skipBlanks rest)
      return (v :: items, rest)
    | ']' :: rest => return ([v], rest)
    | _ => .error .malformed

/-- The members of an object from one of them on, and what follows the closing brace. -/
def readMembers : Nat → Nat → Chars → Except Refusal (List (Scalar × Value) × Chars)
  | 0, _, _ => .error .malformed
  | fuel + 1, depth, cs =>
    match cs with
    | '\x22' :: rest => do
      let (key, rest) ← Refusal.ofForm (readString (rest.length + 1) rest)
      match skipBlanks rest with
      | ':' :: rest =>
        let (v, rest) ← readValue fuel depth (skipBlanks rest)
        let member := (Scalar.str (String.ofList key), v)
        match skipBlanks rest with
        | ',' :: rest =>
          let (members, rest) ← readMembers fuel depth (skipBlanks rest)
          return (member :: members, rest)
        | '\x7d' :: rest => return ([member], rest)
        | _ => .error .malformed
      | _ => .error .malformed
    | _ => .error .malformed

end

/-- The value of a document. -/
def load (cs : Chars) : Except Refusal Value := do
  let (v, rest) ← readValue (2 * cs.length + 2) depthLimit (skipBlanks cs)
  if (skipBlanks rest).isEmpty then return v else .error .malformed

end MixedScript.Json
