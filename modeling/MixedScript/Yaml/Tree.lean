import MixedScript.Yaml.Layout
import MixedScript.Yaml.Plain

/-!
The node tree of a document: scalars, sequences and mappings with their tags, and repetitions of named nodes
filled in.
-/

namespace MixedScript.Yaml

/-- A node. A tag is kept in full; the tag that leaves the choice open counts as none. -/
inductive Node where
  /-- A scalar; the text of an untagged plain one decides its type. -/
  | scalar (tag : Option Chars) (text : Chars) (plain : Bool)
  /-- Nodes in order. -/
  | sequence (tag : Option Chars) (items : List Node)
  /-- Pairs of nodes in order. -/
  | mapping (tag : Option Chars) (entries : List (Node × Node))
  deriving Repr

instance : Inhabited Node := ⟨.scalar none [] true⟩

/-- A document as far as its nodes have been found. -/
structure Composition where
  /-- The lexemes that are left. -/
  rest : List Lexeme
  /-- The named nodes. -/
  anchors : List (Chars × Node)
  /-- The handles of tags and what they stand for. -/
  handles : List (Chars × Chars)

namespace Composition

/-- The start of the tags that belong to the language. -/
def ownTags : Chars := "tag:yaml.org,2002:".toList

/-- The handles that every document has. -/
def ownHandles : List (Chars × Chars) := [(['!'], ['!']), (['!', '!'], ownTags)]

/-- The next lexeme. -/
def peek (c : Composition) : Lexeme :=
  c.rest.head?.getD .streamEnd

/-- The document after the next lexeme. -/
def next (c : Composition) : Composition :=
  { c with rest := c.rest.drop 1 }

/-- The document after the next lexeme, which has to be the given one. -/
def expect (x : Lexeme) (c : Composition) : Except Refusal Composition :=
  if c.peek == x then .ok c.next else .error .malformed

/-- What stands in front of a node: its name and its tag. -/
structure Properties where
  /-- The name. -/
  anchor : Option Chars := none
  tag : Option Chars := none
  /-- Whether there is a tag, even if it leaves the choice open. -/
  tagged : Bool := false

def fullTag (c : Composition) (handle : Option Chars) (suffix : Chars) : Except Refusal Chars :=
  match handle with
  | none => .ok suffix
  | some h =>
    match c.handles.lookup h with
    | some start => .ok (start ++ suffix)
    | none => .error .malformed

/-- The name and the tag at the start of a node, in either order. -/
def properties (c : Composition) : Except Refusal (Properties × Composition) := do
  let withTag (c : Composition) (p : Properties) : Except Refusal (Properties × Composition) :=
    match c.peek with
    | .tag handle suffix => do
      let full ← c.fullTag handle suffix
      return ({ p with tag := if full == ['!'] then none else some full, tagged := true }, c.next)
    | _ => .ok (p, c)
  let withAnchor (c : Composition) (p : Properties) : Properties × Composition :=
    match c.peek with
    | .anchor name => ({ p with anchor := some name }, c.next)
    | _ => (p, c)
  match c.peek with
  | .anchor _ =>
    let (p, c) := withAnchor c {}
    withTag c p
  | .tag .. => do
    let (p, c) ← withTag c {}
    return withAnchor c p
  | _ => .ok ({}, c)

/-- The document with a name for a node, unless it is taken. -/
def bind (c : Composition) (anchor : Option Chars) (n : Node) : Except Refusal (Node × Composition) :=
  match anchor with
  | none => .ok (n, c)
  | some name =>
    if (c.anchors.lookup name).isSome then .error .malformed
    else .ok (n, { c with anchors := (name, n) :: c.anchors })

/-- The node that stands where nothing is written. -/
def absent : Node := .scalar none [] true

/-- How deep nodes may be nested. -/
def depthLimit : Nat := 480

mutual

/-- A node. Collections by indentation are allowed only in some places, and a sequence that is not indented
only as a value. -/
def node (fuel depth : Nat) (block indentless : Bool) (c : Composition) : Except Refusal (Node × Composition) :=
  match fuel with
  | 0 => .error .malformed
  | fuel + 1 => do
    if depth == 0 then .error (.value .tooDeep)
    match c.peek with
    | .alias name =>
      match c.anchors.lookup name with
      | some n => return (n, c.next)
      | none => .error .malformed
    | _ =>
      let (p, c) ← c.properties
      let collection (tokens : Composition) (read : Composition → Except Refusal (Node × Composition)) :
          Except Refusal (Node × Composition) := do
        let (n, c) ← read tokens
        c.bind p.anchor n
      match c.peek with
      | .item =>
        if indentless then collection c (fun c => do
          let (ns, c) ← items fuel (depth - 1) false c
          return (.sequence p.tag ns, c))
        else if p.anchor.isSome || p.tagged then c.bind p.anchor (.scalar p.tag [] true)
        else .error .malformed
      | .scalar text plain => c.next.bind p.anchor (.scalar p.tag text (plain || (p.tagged && p.tag.isNone)))
      | .openSequence => collection c.next (fun c => do
          let (ns, c) ← flowItems fuel (depth - 1) true c
          return (.sequence p.tag ns, c))
      | .openMapping => collection c.next (fun c => do
          let (es, c) ← flowEntries fuel (depth - 1) true c
          return (.mapping p.tag es, c))
      | x =>
        if block && x == .blockSequence then collection c.next (fun c => do
          let (ns, c) ← items fuel (depth - 1) true c
          return (.sequence p.tag ns, c))
        else if block && x == .blockMapping then collection c.next (fun c => do
          let (es, c) ← entries fuel (depth - 1) c
          return (.mapping p.tag es, c))
        else if p.anchor.isSome || p.tagged then c.bind p.anchor (.scalar p.tag [] true)
        else .error .malformed

/-- A node, or the absent one before a lexeme that ends it. -/
def nodeUnless (fuel depth : Nat) (block indentless : Bool) (ends : List Lexeme) (c : Composition) :
    Except Refusal (Node × Composition) :=
  match fuel with
  | 0 => .error .malformed
  | fuel + 1 => if ends.contains c.peek then .ok (absent, c) else node fuel depth block indentless c

/-- The items of a sequence by indentation. One that is indented has an end of its own. -/
def items (fuel depth : Nat) (indented : Bool) (c : Composition) : Except Refusal (List Node × Composition) :=
  match fuel with
  | 0 => .error .malformed
  | fuel + 1 =>
    if c.peek == .item then do
      let ends := if indented then [.item, .blockEnd] else [.item, .key, .value, .blockEnd]
      let (n, c) ← nodeUnless fuel depth true false ends c.next
      let (ns, c) ← items fuel depth indented c
      return (n :: ns, c)
    else if indented then do return ([], ← c.expect .blockEnd)
    else .ok ([], c)

/-- The entries of a mapping by indentation. -/
def entries (fuel depth : Nat) (c : Composition) : Except Refusal (List (Node × Node) × Composition) :=
  match fuel with
  | 0 => .error .malformed
  | fuel + 1 =>
    if c.peek == .key then do
      let (k, c) ← nodeUnless fuel depth true true [.key, .value, .blockEnd] c.next
      let (v, c) ←
        if c.peek == .value then nodeUnless fuel depth true true [.key, .value, .blockEnd] c.next
        else pure (absent, c)
      let (es, c) ← entries fuel depth c
      return ((k, v) :: es, c)
    else do return ([], ← c.expect .blockEnd)

/-- The items of a flow sequence. A key makes an item a mapping of one entry. -/
def flowItems (fuel depth : Nat) (first : Bool) (c : Composition) : Except Refusal (List Node × Composition) :=
  match fuel with
  | 0 => .error .malformed
  | fuel + 1 =>
    if c.peek == .closeSequence then .ok ([], c.next)
    else do
      let c ← if first then pure c else c.expect .separator
      if c.peek == .closeSequence then return ([], c.next)
      else if c.peek == .key then do
        let (k, c) ← nodeUnless fuel (depth - 1) false false [.value, .separator, .closeSequence] c.next
        let (v, c) ←
          if c.peek == .value then nodeUnless fuel (depth - 1) false false [.separator, .closeSequence] c.next
          else pure (absent, c)
        let (ns, c) ← flowItems fuel depth false c
        return (.mapping none [(k, v)] :: ns, c)
      else do
        let (n, c) ← node fuel depth false false c
        let (ns, c) ← flowItems fuel depth false c
        return (n :: ns, c)

/-- The entries of a flow mapping. -/
def flowEntries (fuel depth : Nat) (first : Bool) (c : Composition) :
    Except Refusal (List (Node × Node) × Composition) :=
  match fuel with
  | 0 => .error .malformed
  | fuel + 1 =>
    if c.peek == .closeMapping then .ok ([], c.next)
    else do
      let c ← if first then pure c else c.expect .separator
      if c.peek == .closeMapping then return ([], c.next)
      else if c.peek == .key then do
        let (k, c) ← nodeUnless fuel depth false false [.value, .separator, .closeMapping] c.next
        let (v, c) ←
          if c.peek == .value then nodeUnless fuel depth false false [.separator, .closeMapping] c.next
          else pure (absent, c)
        let (es, c) ← flowEntries fuel depth false c
        return ((k, v) :: es, c)
      else do
        let (k, c) ← node fuel depth false false c
        let (es, c) ← flowEntries fuel depth false c
        return ((k, absent) :: es, c)

end

/-- The document after the directives at its start. -/
def directives : Nat → Composition → Composition
  | 0, c => c
  | fuel + 1, c =>
    match c.peek with
    | .directive (some handle) => directives fuel { c.next with handles := handle :: c.handles }
    | .directive none => directives fuel c.next
    | _ => c

end Composition

/-- Lexemes after any marks for the end of a document. -/
def afterEnds (xs : List Lexeme) : List Lexeme :=
  xs.dropWhile (· == .documentEnd)

def Lexeme.isDirective : Lexeme → Bool
  | .directive _ => true
  | _ => false

/-- The node tree of the only document of a text, if it has one. -/
def tree? (cs : Chars) : Except Refusal (Option Node) := do
  let xs ← lexemes cs
  let fuel := 4 * xs.length + 8
  let compose (c : Composition) (ends : List Lexeme) : Except Refusal (Option Node) := do
    let (n, c) ← c.nodeUnless fuel Composition.depthLimit true false ends
    if (afterEnds c.rest).head? == some .streamEnd then return some n else .error .malformed
  let start : Composition := ⟨xs, [], Composition.ownHandles⟩
  if start.peek == .streamEnd then return none
  else if start.peek.isDirective || start.peek == .documentStart then
    let c ← (start.directives xs.length).expect .documentStart
    compose c [.documentStart, .documentEnd, .streamEnd]
  else compose start []

end MixedScript.Yaml
