import MixedScript.Document.Node

/-!
The leaves of a document tree: all of them in order, the first and the last one, and the text they hold.
-/

namespace MixedScript

/-- The two ends from which a leaf can be looked for. -/
inductive Edge where
  | first | last
  deriving DecidableEq, Repr

/-- The name of an edge as messages give it. -/
def Edge.name : Edge → String
  | first => "first"
  | last => "last"

/-- A container without children met on the way to a leaf. -/
structure DeadEnd where
  /-- The kind of the container. -/
  kind : Kind
  /-- The end from which the leaf was looked for. -/
  edge : Edge
  deriving DecidableEq, Repr

namespace Node

mutual

/-- The leaves below a node in document order; a leaf is its own only leaf. -/
def leaves : Node → List Node
  | group _ cs _ => leavesOf cs
  | flow _ cs _ => leavesOf cs
  | text s m => [text s m]
  | math f s m => [math f s m]
  | code s m => [code s m]
  | note i cs m => [note i cs m]
  | inert l m => [inert l m]

/-- The leaves below several nodes in document order. -/
def leavesOf : List Node → List Node
  | [] => []
  | n :: rest => leaves n ++ leavesOf rest

end

/-- The number of leaves below a node. -/
def countLeaves (n : Node) : Nat :=
  n.leaves.length

mutual

/-- The leaf reached by descending into first children. -/
def firstLeaf : Node → Except DeadEnd Node
  | group form cs _ => firstLeafOf form.kind cs
  | flow form cs _ => firstLeafOf form.kind cs
  | text s m => .ok (text s m)
  | math f s m => .ok (math f s m)
  | code s m => .ok (code s m)
  | note i cs m => .ok (note i cs m)
  | inert l m => .ok (inert l m)

/-- The first leaf below the first of several children of a container. -/
def firstLeafOf (parent : Kind) : List Node → Except DeadEnd Node
  | [] => .error ⟨parent, .first⟩
  | n :: _ => firstLeaf n

end

mutual

/-- The leaf reached by descending into last children. -/
def lastLeaf : Node → Except DeadEnd Node
  | group form cs _ => lastLeafOf form.kind cs
  | flow form cs _ => lastLeafOf form.kind cs
  | text s m => .ok (text s m)
  | math f s m => .ok (math f s m)
  | code s m => .ok (code s m)
  | note i cs m => .ok (note i cs m)
  | inert l m => .ok (inert l m)

/-- The last leaf below the last of several children of a container. -/
def lastLeafOf (parent : Kind) : List Node → Except DeadEnd Node
  | [] => .error ⟨parent, .last⟩
  | [n] => lastLeaf n
  | _ :: n :: rest => lastLeafOf parent (n :: rest)

end

mutual

/-- The tree with `f` applied to the leaf reached by descending into first children. -/
def mapFirstLeaf (f : Node → Node) : Node → Node
  | group form cs m => group form (mapFirstLeafOf f cs) m
  | flow form cs m => flow form (mapFirstLeafOf f cs) m
  | text s m => f (text s m)
  | math g s m => f (math g s m)
  | code s m => f (code s m)
  | note i cs m => f (note i cs m)
  | inert l m => f (inert l m)

/-- The children with `f` applied to the first leaf below the first of them. -/
def mapFirstLeafOf (f : Node → Node) : List Node → List Node
  | [] => []
  | n :: rest => mapFirstLeaf f n :: rest

end

mutual

/-- The tree with `f` applied to the leaf reached by descending into last children. -/
def mapLastLeaf (f : Node → Node) : Node → Node
  | group form cs m => group form (mapLastLeafOf f cs) m
  | flow form cs m => flow form (mapLastLeafOf f cs) m
  | text s m => f (text s m)
  | math g s m => f (math g s m)
  | code s m => f (code s m)
  | note i cs m => f (note i cs m)
  | inert l m => f (inert l m)

/-- The children with `f` applied to the last leaf below the last of them. -/
def mapLastLeafOf (f : Node → Node) : List Node → List Node
  | [] => []
  | [n] => [mapLastLeaf f n]
  | n :: next :: rest => n :: mapLastLeafOf f (next :: rest)

end

/-- The content of a text run; nothing for any other leaf. -/
def textContent : Node → Chars
  | text s _ => s
  | _ => []

/-- A text run with other content; any other node as it is. -/
def withText (s : Chars) : Node → Node
  | text _ m => text s m
  | n => n

mutual

/-- The text below a node: its text runs in order, the empty ones left out, with a joiner between the
parts. -/
def plainText (joiner : Chars) : Node → Chars
  | text s _ => s
  | group _ cs _ => Chars.join joiner (plainParts joiner cs)
  | flow _ cs _ => Chars.join joiner (plainParts joiner cs)
  | _ => []

/-- The texts below several nodes that are not empty. -/
def plainParts (joiner : Chars) : List Node → List Chars
  | [] => []
  | n :: rest =>
    match plainText joiner n with
    | [] => plainParts joiner rest
    | s => s :: plainParts joiner rest

end

/-- The text below several nodes, with a joiner between the parts. -/
def plainTextOf (joiner : Chars) (ns : List Node) : Chars :=
  Chars.join joiner (plainParts joiner ns)

end Node

end MixedScript
