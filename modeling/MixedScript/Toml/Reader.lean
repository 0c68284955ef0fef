import MixedScript.Toml.Number
import MixedScript.Toml.Table
import MixedScript.Toml.Text

/-!
Reading of TOML: values, then the lines of a document one after the other.
-/

namespace MixedScript.Toml

/-- A text without the blanks, ends of lines and comments at its start. -/
def skipToItem : Nat → Chars → Option Chars
  | 0, _ => none
  | fuel + 1, cs =>
    match skipLines cs with
    | '#' :: rest => (skipComment ('#' :: rest)).bind (skipToItem fuel)
    | rest => some rest

/-- An inline table while it is being read: its values, and the keys behind which nothing can be added. -/
structure InlineTable where
  /-- The values so far. -/
  values : Mapping := []
  /-- Keys behind which nothing can be added. -/
  closed : List Key := []

/-- The inline table with a value under a key. -/
def InlineTable.add? (t : InlineTable) (key : Key) (value : Value) : Option InlineTable :=
  if t.closed.any (fun start => start.isPrefixOf key) then none
  else (addAt? false key value t.values).map
    (fun values => ⟨values, if isCollection value then key :: t.closed else t.closed⟩)

/-- A word for a truth value, and what follows. -/
def readTruth (cs : Chars) : Option (Bool × Chars) :=
  ((Chars.after? "true".toList cs).map (fun rest => (true, rest))).orElse
    (fun _ => (Chars.after? "false".toList cs).map (fun rest => (false, rest)))

/-- A value without parts, and what follows. -/
def readScalar (cs : Chars) : Except Refusal (Value × Chars) :=
  match cs with
  | '\x22' :: _ | '\x27' :: _ =>
    (Refusal.ofForm (readString cs)).map (fun (content, rest) => (.str (String.ofList content), rest))
  | _ =>
    match readTruth cs with
    | some (b, rest) => .ok (.bool b, rest)
    | none =>
      match readMoment cs with
      | some (moment, rest) => (Refusal.ofForm moment).map (fun s => (.scalar s, rest))
      | none => (readNumber cs).map (fun (s, rest) => (.scalar s, rest))

/-- How many readers of values may be at work inside one another: an array takes two, an inline table three. -/
def depthLimit : Nat := 980

mutual

/-- A value at the start of a text, for which some readers are left, and what follows. -/
def readValue : Nat → Nat → Chars → Except Refusal (Value × Chars)
  | 0, _, _ => .error .malformed
  | fuel + 1, depth, cs =>
    match cs with
    | '[' :: rest =>
      if depth < 2 then .error (.value .tooDeep)
      else do
        let rest ← Refusal.ofForm (skipToItem (rest.length + 1) rest)
        (readItems fuel (depth - 2) rest).map (fun (items, rest) => (.list items, rest))
    | '\x7b' :: rest =>
      if depth < 3 then .error (.value .tooDeep)
      else
        match skipBlanks rest with
        | '\x7d' :: rest => .ok (.map [], rest)
        | rest => (readMembers fuel (depth - 3) {} rest).map (fun (m, rest) => (.map m, rest))
    | _ => readScalar cs

/-- The items of an array from one of them or its end on, and what follows it. -/
def readItems : Nat → Nat → Chars → Except Refusal (List Value × Chars)
  | 0, _, _ => .error .malformed
  | fuel + 1, depth, cs =>
    match cs with
    | ']' :: rest => .ok ([], rest)
    | _ => do
      let (v, rest) ← readValue fuel depth cs
      let rest ← Refusal.ofForm (skipToItem (rest.length + 1) rest)
      match rest with
      | ']' :: rest => return ([v], rest)
      | ',' :: rest =>
        let rest ← Refusal.ofForm (skipToItem (rest.length + 1) rest)
        let (items, rest) ← readItems fuel depth rest
        return (v :: items, rest)
      | _ => .error .malformed

/-- A key with its value, and what follows. -/
def readPair : Nat → Nat → Chars → Except Refusal (Key × Value × Chars)
  | 0, _, _ => .error .malformed
  | fuel + 1, depth, cs => do
    let (key, rest) ← Refusal.ofForm (readKey cs)
    match rest with
    | '=' :: rest =>
      let (v, rest) ← readValue fuel depth (skipBlanks rest)
      return (key, v, rest)
    | _ => .error .malformed

/-- An inline table from one of its keys on, given what it holds so far, and what follows it. -/
def readMembers : Nat → Nat → InlineTable → Chars → Except Refusal (Mapping × Chars)
  | 0, _, _, _ => .error .malformed
  | fuel + 1, depth, t, cs => do
    let (key, v, rest) ← readPair fuel depth cs
    let t ← Refusal.ofForm (t.add? key v)
    match skipBlanks rest with
    | '\x7d' :: rest => return (t.values, rest)
    | ',' :: rest => readMembers fuel depth t (skipBlanks rest)
    | _ => .error .malformed

end

/-- A header in one or two pairs of brackets, of which the first has been read, and what follows. -/
def readHeader (d : Draft) (cs : Chars) : Option (Draft × Chars) :=
  match cs with
  | '[' :: rest => do
    let (key, rest) ← readKey (skipBlanks rest)
    let d ← d.atHeader.declareInArray? key
    let rest ← Chars.after? [']', ']'] rest
    some (d, rest)
  | _ => do
    let (key, rest) ← readKey (skipBlanks cs)
    let d ← d.atHeader.declare? key
    let rest ← Chars.after? [']'] rest
    some (d, rest)

/-- A header or a key with its value, unless the line is empty, and what follows. -/
def readStatement (d : Draft) (cs : Chars) : Except Refusal (Draft × Chars) :=
  match cs with
  | [] => .ok (d, [])
  | '\n' :: _ | '#' :: _ => .ok (d, cs)
  | '[' :: rest => Refusal.ofForm (readHeader d rest)
  | _ => do
    let (key, v, rest) ← readPair (3 * cs.length + 3) depthLimit cs
    let d ← Refusal.ofForm (d.add? key v)
    return (d, rest)

/-- The lines of a document, added to what has been read before them. -/
def readLines : Nat → Draft → Chars → Except Refusal Draft
  | 0, _, _ => .error .malformed
  | fuel + 1, d, cs => do
    let (d, rest) ← readStatement d (skipBlanks cs)
    match ← Refusal.ofForm (skipComment (skipBlanks rest)) with
    | [] => return d
    | '\n' :: rest => readLines fuel d rest
    | _ => .error .malformed

/-- A text with line feeds for pairs of carriage return and line feed. -/
def normalLineEnds : Chars → Chars
  | '\r' :: '\n' :: rest => '\n' :: normalLineEnds rest
  | c :: rest => c :: normalLineEnds rest
  | [] => []

/-- The values of a document. -/
def load (cs : Chars) : Except Refusal Mapping :=
  (readLines (cs.length + 1) {} (normalLineEnds cs)).map Draft.values

end MixedScript.Toml
