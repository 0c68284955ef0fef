import MixedScript.Text.Base64
import MixedScript.Yaml.Pen

/-!
Writing values as block mappings and sequences. A sequence inside a mapping is not indented; empty
collections are written in brackets. Bytes and sets have tags: bytes are written in base 64, and sets as mappings
to the absent value.
-/

namespace MixedScript.Yaml

/-- The text of a scalar and whether its plain form stands for it. -/
def scalarText : Scalar → Chars × Bool
  | .null => ("null".toList, true)
  | .bool b => (if b then "true".toList else "false".toList, true)
  | .int i => (Chars.ofInt i, true)
  | .float (.infinite negative) => (if negative then "-.inf".toList else ".inf".toList, true)
  | .float .undefined => (".nan".toList, true)
  | .float f =>
    let cs := f.text
    if cs.contains '.' then (cs, true) else (Chars.replaceChar 'e' ['.', '0', 'e'] cs, true)
  | .date iso => (iso.toList.map (fun c => if c == 'T' then ' ' else c), true)
  | .str s => (s.toList, plainType s.toList == .str)
  | .bytes bs => (Text.toBase64 bs ++ ['\n'], false)

/-- The length of the name of the type of a scalar. -/
def tagLength : Scalar → Nat
  | .str _ | .int _ => 5
  | .null | .bool _ => 6
  | .float _ => 7
  | .bytes _ => 8
  | .date _ => 11

/-- Where a value is written. -/
inductive Place where
  | root | item | entry | key
  deriving DecidableEq, Repr

/-- The tag of a value that its form does not tell. -/
def writeTag (name : String) (p : Pen) : Pen :=
  p.indicator ('!' :: '!' :: name.toList) true false false

/-- The number of characters on a line of base 64. -/
def base64Width : Nat := 76

/-- Writes lines of base 64. -/
def writeBase64 (indent : Nat) : Nat → Pen → Chars → Pen
  | _, p, [] => p
  | 0, p, _ => p
  | fuel + 1, p, cs =>
    writeBase64 indent fuel (((p.indentTo indent).put (cs.take base64Width)).newline) (cs.drop base64Width)

/-- Writes bytes as a block. -/
def writeBytes (indent : Nat) (p : Pen) (bs : List UInt8) : Pen :=
  let p := writeTag "binary" p
  if bs.isEmpty then writeSingle indent true p []
  else
    let cs := Text.toBase64 bs
    writeBase64 indent cs.length (p.indicator ['|'] true false false).newline cs

def writeScalar (indent : Nat) (place : Place) (p : Pen) (s : Scalar) : Pen :=
  let (cs, resolves) := scalarText s
  let key := place == .key
  match s, styleOf resolves key cs with
  | .bytes bs, _ => writeBytes indent p bs
  | _, .plain => writePlain indent (!key) p cs
  | _, .single => writeSingle indent (!key) p cs
  | _, .double => writeDouble indent (!key) p cs

/-- Whether a key is written on one line before its colon. -/
def isSimpleKey (s : Scalar) : Bool :=
  let (cs, _) := scalarText s
  !cs.isEmpty && !cs.any isBreak && cs.length + tagLength s < 128

/-- The indentation of a collection inside another one; the root has none to add to. -/
def deeper : Option Nat → Nat
  | none => 0
  | some n => n + 2

/-- The indentation of the folded lines of a scalar. -/
def foldIndent (indent : Option Nat) : Nat :=
  indent.getD 0 + 2

/-- Writes a key, up to where its value follows. -/
def writeKey (indent : Nat) (p : Pen) (k : Scalar) : Pen :=
  let p := p.indentTo indent
  if isSimpleKey k then (writeScalar (indent + 2) .key p k).indicator [':'] false false false
  else
    let p := writeScalar (indent + 2) .entry (p.indicator ['?'] true false true) k
    (p.indentTo indent).indicator [':'] true false true

/-- Writes the members of a set. -/
def writeMembers (indent : Nat) (p : Pen) : List Scalar → Pen
  | [] => p
  | k :: rest => writeMembers indent (writeScalar (indent + 2) .entry (writeKey indent p k) .null) rest

mutual

def writeValue (indent : Option Nat) (place : Place) (p : Pen) : Value → Pen
  | .scalar s => writeScalar (foldIndent indent) place p s
  | .list [] => (p.indicator ['['] true true false).indicator [']'] false false false
  | .list (v :: rest) =>
    let own := if place == .entry && !p.onlyIndent then indent.getD 0 else deeper indent
    writeItems own p (v :: rest)
  | .map [] => (p.indicator ['\x7b'] true true false).indicator ['\x7d'] false false false
  | .map (e :: rest) => writeEntries (deeper indent) p (e :: rest)
  | .set [] => ((writeTag "set" p).indicator ['\x7b'] true true false).indicator ['\x7d'] false false false
  | .set (k :: rest) => writeMembers (deeper indent) (writeTag "set" p) (k :: rest)

/-- Writes the items of a sequence. -/
def writeItems (indent : Nat) (p : Pen) : List Value → Pen
  | [] => p
  | v :: rest =>
    let p := (p.indentTo indent).indicator ['-'] true false true
    writeItems indent (writeValue (some indent) .item p v) rest

/-- Writes the entries of a mapping. -/
def writeEntries (indent : Nat) (p : Pen) : List (Scalar × Value) → Pen
  | [] => p
  | (k, v) :: rest => writeEntries indent (writeValue (some indent) .entry (writeKey indent p k) v) rest

end

/-- Whether a document ends in a plain scalar of its own, after which the end is marked. -/
def endsOpen : Value → Bool
  | .scalar s =>
    let (cs, resolves) := scalarText s
    styleOf resolves false cs == .plain
  | _ => false

/-- A value as a document of its own. -/
def print (v : Value) : Chars :=
  let p := writeValue none .root .start v
  let p := p.indentTo 0
  let p := if endsOpen v then p.indicator ['.', '.', '.'] true false false |>.indentTo 0 else p
  p.written.reverse

end MixedScript.Yaml
