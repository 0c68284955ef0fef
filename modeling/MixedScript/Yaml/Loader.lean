import MixedScript.Text.Base64
import MixedScript.Yaml.Tree

/-!
Values of documents. Tags decide the types of nodes; mappings take in the entries of the mappings that they
merge, which their own entries override.
-/

namespace MixedScript.Yaml

/-- The tag of the language with a name. -/
def ownTag (name : String) : Chars :=
  Composition.ownTags ++ name.toList

/-- The value of a scalar without tag. -/
def untaggedScalar (text : Chars) (plain : Bool) : Except Refusal Scalar :=
  if plain then
    match plainType text with
    | .merge | .default | .special => .error .malformed
    | _ => (plainScalar text).mapError .value
  else .ok (.str (String.ofList text))

/-- The value of a text under a tag for scalars. -/
def taggedScalar (tag text : Chars) : Except Refusal Scalar :=
  if tag == ownTag "str" then .ok (.str (String.ofList text))
  else if tag == ownTag "null" then .ok .null
  else if tag == ownTag "bool" then
    match boolOf? (Text.toLower text) with
    | some b => .ok (.bool b)
    | none => .error (.value .missingEntry)
  else if tag == ownTag "int" then ((intOf text).map .int).mapError .value
  else if tag == ownTag "float" then ((floatOf text).map .float).mapError .value
  else if tag == ownTag "timestamp" then (timestampOf text).mapError .value
  else if tag == ownTag "binary" && text.all (fun c => c.toNat < 0x80) then
    Refusal.ofForm ((Text.base64? text).map .bytes)
  else .error .malformed

/-- Whether a node has a tag of the language, which a plain text of a type may stand for. -/
def hasTag (name : String) (type : PlainType) : Node → Bool
  | .scalar none text plain => plain && plainType text = type
  | .scalar (some t) _ _ | .sequence (some t) _ | .mapping (some t) _ => t == ownTag name
  | _ => false

/-- Whether a node is the key that merges mappings. -/
def isMergeKey : Node → Bool :=
  hasTag "merge" .merge

/-- Whether a node is the key for the value of a mapping as a whole. -/
def isDefaultKey : Node → Bool :=
  hasTag "value" .default

/-- A node with another tag. -/
def Node.retag (tag : Chars) : Node → Node
  | .scalar _ text plain => .scalar (some tag) text plain
  | .sequence _ items => .sequence (some tag) items
  | .mapping _ entries => .mapping (some tag) entries

/-- A key, which is a text if it is the one for the value of a mapping as a whole. -/
def plainKey (n : Node) : Node :=
  if isDefaultKey n then n.retag (ownTag "str") else n

/-- The text of a scalar, or of the value that a mapping has as a whole. -/
def Node.text? : Nat → Node → Option Chars
  | _, .scalar _ text _ => some text
  | fuel + 1, .mapping _ entries => (entries.find? (fun e => isDefaultKey e.1)).bind (fun e => e.2.text? fuel)
  | _, _ => none

mutual

/-- The entries of a mapping with the entries of what it merges in front of them. -/
def flattened : Nat → List (Node × Node) → Except Refusal (List (Node × Node))
  | 0, _ => .error (.value .tooDeep)
  | fuel + 1, entries => do
    let (merged, own) ← flattenFrom fuel entries
    return merged ++ own

/-- The entries that a mapping merges, and its own. -/
def flattenFrom : Nat → List (Node × Node) → Except Refusal (List (Node × Node) × List (Node × Node))
  | 0, _ => .error (.value .tooDeep)
  | _, [] => .ok ([], [])
  | fuel + 1, (k, v) :: rest => do
    if isMergeKey k then
      let here ←
        match v with
        | .mapping _ es => flattened fuel es
        | .sequence _ ns => mergedOf fuel ns
        | .scalar .. => .error .malformed
      let (merged, own) ← flattenFrom fuel rest
      return (here ++ merged, own)
    else
      let (merged, own) ← flattenFrom fuel rest
      return (merged, (plainKey k, v) :: own)

/-- The entries of several mappings that are merged, those of the last first. -/
def mergedOf : Nat → List Node → Except Refusal (List (Node × Node))
  | 0, _ => .error (.value .tooDeep)
  | _, [] => .ok []
  | fuel + 1, n :: rest => do
    match n with
    | .mapping _ es =>
      let here ← flattened fuel es
      return (← mergedOf fuel rest) ++ here
    | _ => .error .malformed

end

/-- Whether a collection has no tag or the one of a name. -/
def isOwnCollection (name : String) (tag : Option Chars) : Bool :=
  (tag.map (· == ownTag name)).getD true

mutual

/-- The value of a node. A sequence may also be one of pairs, each a list of two, and a mapping also a set, or a
scalar under the key for its value as a whole. -/
def Node.value : Nat → Node → Except Refusal Value
  | 0, _ => .error (.value .tooDeep)
  | fuel + 1, n =>
    match n with
    | .scalar none text plain => (untaggedScalar text plain).map .scalar
    | .scalar (some tag) text _ => (taggedScalar tag text).map .scalar
    | .sequence tag items =>
      if isOwnCollection "seq" tag then (valuesOf fuel items).map .list
      else if tag == some (ownTag "omap") || tag == some (ownTag "pairs") then (pairsOf fuel items).map .list
      else .error .malformed
    | .mapping tag entries =>
      if isOwnCollection "map" tag then do
        let entries ← flattened fuel entries
        return .map (Mapping.ofEntries (← entriesOf fuel entries))
      else if tag == some (ownTag "set") then do
        let entries ← flattened fuel entries
        return .set ((Mapping.ofEntries (← entriesOf fuel entries)).map Prod.fst)
      else do
        let text ← Refusal.ofForm (n.text? fuel)
        return .scalar (← taggedScalar (tag.getD []) text)

/-- The values of nodes in order. -/
def valuesOf : Nat → List Node → Except Refusal (List Value)
  | 0, _ => .error (.value .tooDeep)
  | _, [] => .ok []
  | fuel + 1, n :: rest => do
    let v ← n.value fuel
    return v :: (← valuesOf fuel rest)

/-- The pairs that mappings of one entry stand for, in order. -/
def pairsOf : Nat → List Node → Except Refusal (List Value)
  | 0, _ => .error (.value .tooDeep)
  | _, [] => .ok []
  | fuel + 1, .mapping _ [(k, v)] :: rest => do
    let k ← k.value fuel
    let v ← v.value fuel
    return .list [k, v] :: (← pairsOf fuel rest)
  | _, _ => .error .malformed

/-- The entries of a mapping in order. Only scalars are keys. -/
def entriesOf : Nat → List (Node × Node) → Except Refusal (List (Scalar × Value))
  | 0, _ => .error (.value .tooDeep)
  | _, [] => .ok []
  | fuel + 1, (k, v) :: rest => do
    match ← k.value fuel with
    | .scalar key =>
      let v ← v.value fuel
      return (key, v) :: (← entriesOf fuel rest)
    | _ => .error .malformed

end

/-- The value of a document; an empty one has the absent value. -/
def load (cs : Chars) : Except Refusal Value := do
  match ← tree? cs with
  | none => .ok .null
  | some n => n.value (16 * (cs.length + 16))

end MixedScript.Yaml
