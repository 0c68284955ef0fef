import MixedScript.Decimal.Shortest
import MixedScript.Text.Digits
import MixedScript.Text.Quoted

/-!
Dynamic values, as configuration files and front matter hold them: scalars, lists and mappings. A mapping
keeps the order in which its keys were first written.
-/

namespace MixedScript

/-- A value without parts. -/
inductive Scalar where
  /-- The absent value. -/
  | null
  /-- A truth value. -/
  | bool (b : Bool)
  /-- An integer of any size. -/
  | int (i : Int)
  /-- A number of double precision. -/
  | float (f : Decimal.Binary64)
  /-- A calendar date, with or without a time of day, in its ISO form. -/
  | date (iso : String)
  /-- A text. -/
  | str (s : String)
  /-- Bytes. -/
  | bytes (bs : List UInt8)
  deriving DecidableEq, Repr

namespace Scalar

/-- A scalar with numbers that are equal in one form: truth values and integral floats become integers. -/
def canonical : Scalar → Scalar
  | bool b => int (if b then 1 else 0)
  | float f =>
    match f.toInt? with
    | some i => int i
    | none => float f
  | s => s

/-- Whether two scalars are one key of a mapping. -/
def sameKey (a b : Scalar) : Bool :=
  a.canonical == b.canonical

end Scalar

/-- A value: a scalar, a list of values, a mapping from scalars to values or a set of scalars. -/
inductive Value where
  /-- A value without parts. -/
  | scalar (s : Scalar)
  /-- Values in order. -/
  | list (items : List Value)
  /-- Values under keys, in order. -/
  | map (entries : List (Scalar × Value))
  /-- Scalars, each of them once. -/
  | set (members : List Scalar)
  deriving Repr

/-- Values under keys, in order. -/
abbrev Mapping := List (Scalar × Value)

namespace Value

/-- The absent value. -/
@[match_pattern] abbrev null : Value := .scalar .null

/-- A truth value. -/
@[match_pattern] abbrev bool (b : Bool) : Value := .scalar (.bool b)

/-- An integer. -/
@[match_pattern] abbrev int (i : Int) : Value := .scalar (.int i)

/-- A number of double precision. -/
@[match_pattern] abbrev float (f : Decimal.Binary64) : Value := .scalar (.float f)

/-- A calendar date. -/
@[match_pattern] abbrev date (iso : String) : Value := .scalar (.date iso)

/-- A text. -/
@[match_pattern] abbrev str (s : String) : Value := .scalar (.str s)

/-- Bytes. -/
@[match_pattern] abbrev bytes (bs : List UInt8) : Value := .scalar (.bytes bs)

instance : Inhabited Value := ⟨null⟩

mutual

/-- Equality of values by comparison of their parts. -/
def decideEq : (a b : Value) → Decidable (a = b)
  | .scalar s, .scalar t =>
    if h : s = t then isTrue (by rw [h]) else isFalse (by intro e; injection e; contradiction)
  | .list xs, .list ys =>
    match decideEqList xs ys with
    | isTrue h => isTrue (by rw [h])
    | isFalse h => isFalse (by intro e; injection e; contradiction)
  | .map xs, .map ys =>
    match decideEqEntries xs ys with
    | isTrue h => isTrue (by rw [h])
    | isFalse h => isFalse (by intro e; injection e; contradiction)
  | .set xs, .set ys =>
    if h : xs = ys then isTrue (by rw [h]) else isFalse (by intro e; injection e; contradiction)
  | .scalar _, .list _ | .scalar _, .map _ | .scalar _, .set _ => isFalse (by intro e; cases e)
  | .list _, .scalar _ | .list _, .map _ | .list _, .set _ => isFalse (by intro e; cases e)
  | .map _, .scalar _ | .map _, .list _ | .map _, .set _ => isFalse (by intro e; cases e)
  | .set _, .scalar _ | .set _, .list _ | .set _, .map _ => isFalse (by intro e; cases e)

/-- Equality of lists of values. -/
def decideEqList : (xs ys : List Value) → Decidable (xs = ys)
  | [], [] => isTrue rfl
  | [], _ :: _ => isFalse (by intro e; cases e)
  | _ :: _, [] => isFalse (by intro e; cases e)
  | x :: xs, y :: ys =>
    match decideEq x y, decideEqList xs ys with
    | isTrue h, isTrue k => isTrue (by rw [h, k])
    | isFalse h, _ => isFalse (by intro e; injection e; contradiction)
    | _, isFalse k => isFalse (by intro e; injection e; contradiction)

/-- Equality of mappings entry by entry. -/
def decideEqEntries : (xs ys : List (Scalar × Value)) → Decidable (xs = ys)
  | [], [] => isTrue rfl
  | [], _ :: _ => isFalse (by intro e; cases e)
  | _ :: _, [] => isFalse (by intro e; cases e)
  | (k, x) :: xs, (l, y) :: ys =>
    if hk : k = l then
      match decideEq x y, decideEqEntries xs ys with
      | isTrue h, isTrue e => isTrue (by rw [hk, h, e])
      | isFalse h, _ => isFalse (by intro e; injection e with e _; injection e; contradiction)
      | _, isFalse h => isFalse (by intro e; injection e; contradiction)
    else isFalse (by intro e; injection e with e _; injection e; contradiction)

end

instance : DecidableEq Value := decideEq

/-- The name of a value's type as messages give it. -/
def typeName : Value → String
  | null => "NoneType"
  | bool _ => "bool"
  | int _ => "int"
  | float _ => "float"
  | date iso => if iso.contains ':' then (if iso.contains '-' then "datetime" else "time") else "date"
  | str _ => "str"
  | bytes _ => "bytes"
  | list _ => "list"
  | map _ => "dict"
  | set _ => "set"

/-- Whether a value counts as true: all do but the absent value, false, zero and whatever is empty. -/
def truthy : Value → Bool
  | null => false
  | bool b => b
  | int i => i != 0
  | float f => !f.isZero
  | date _ => true
  | str s => !s.isEmpty
  | bytes bs => !bs.isEmpty
  | list items => !items.isEmpty
  | map entries => !entries.isEmpty
  | set members => !members.isEmpty

end Value

/-- A scalar as messages show it. -/
def Scalar.quoted : Scalar → Chars
  | .null => "None".toList
  | .bool b => if b then "True".toList else "False".toList
  | .int i => Chars.ofInt i
  | .float f => f.text
  | .date iso => Text.quoted iso.toList
  | .str s => Text.quoted s.toList
  | .bytes bs => Text.quotedBytes bs

/-- Whether a scalar has a text: an integer with too many digits has none. -/
def Scalar.hasText : Scalar → Bool
  | .int i => !Text.isOverlong i
  | _ => true

mutual

/-- A value as messages show it. -/
def Value.quoted : Value → Chars
  | .scalar s => s.quoted
  | .list items => '[' :: (Chars.join [',', ' '] (Value.quotedEach items) ++ [']'])
  | .map entries => '\x7b' :: (Chars.join [',', ' '] (Value.quotedEntries entries) ++ ['\x7d'])
  | .set members =>
    if members.isEmpty then "set()".toList
    else '\x7b' :: (Chars.join [',', ' '] (members.map Scalar.quoted) ++ ['\x7d'])

/-- Each value of a list as messages show it. -/
def Value.quotedEach : List Value → List Chars
  | [] => []
  | v :: rest => v.quoted :: Value.quotedEach rest

/-- Each entry of a mapping as messages show it. -/
def Value.quotedEntries : List (Scalar × Value) → List Chars
  | [] => []
  | (k, v) :: rest => (k.quoted ++ ':' :: ' ' :: v.quoted) :: Value.quotedEntries rest

end

mutual

/-- Whether a value has a text: all its parts have. -/
def Value.hasText : Value → Bool
  | .scalar s => s.hasText
  | .list items => Value.haveText items
  | .map entries => Value.entriesHaveText entries
  | .set members => members.all Scalar.hasText

/-- Whether all values of a list have a text. -/
def Value.haveText : List Value → Bool
  | [] => true
  | v :: rest => v.hasText && Value.haveText rest

/-- Whether all entries of a mapping have a text. -/
def Value.entriesHaveText : List (Scalar × Value) → Bool
  | [] => true
  | (k, v) :: rest => k.hasText && v.hasText && Value.entriesHaveText rest

end

namespace Mapping

/-- The value under a key. -/
def get? (key : Scalar) : Mapping → Option Value
  | [] => none
  | (k, v) :: rest => if k.sameKey key then some v else get? key rest

/-- The value under a text. -/
def at? (m : Mapping) (key : String) : Option Value :=
  m.get? (.str key)

/-- The mapping with a value under a key: in place of the old one, or at the end. -/
def insert (key : Scalar) (value : Value) : Mapping → Mapping
  | [] => [(key, value)]
  | (k, v) :: rest =>
    if k.sameKey key then (k, value) :: rest else (k, v) :: insert key value rest

/-- The mapping that holds the entries one after the other: a repeated key keeps its first position and
takes its last value. -/
def ofEntries (entries : List (Scalar × Value)) : Mapping :=
  entries.foldl (fun m entry => insert entry.1 entry.2 m) []

mutual

/-- The mapping with another laid over it. Where both hold mappings under a key these are merged; else the
value laid over wins. Keys of the mapping below keep their positions. -/
def merge (base : Mapping) : Mapping → Mapping
  | [] => base
  | (key, value) :: rest => merge (insert key (mergeValue (base.get? key) value) base) rest

/-- What a value becomes when it is laid over the one that stands under its key. -/
def mergeValue : Option Value → Value → Value
  | some (.map below), .map above => .map (merge below above)
  | _, value => value

end

end Mapping

end MixedScript
