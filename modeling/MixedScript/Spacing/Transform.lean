import MixedScript.Settings.Options
import MixedScript.Spacing.Fault
import MixedScript.Spacing.Rules

/-!
Spacing a document. Text and math are tidied leaf by leaf, and then every boundary between two children of
a flow is resolved through the leaves that touch it. A space that belongs between two texts becomes a node
of its own between the children, so that it never ends up inside their markup. When something stops the
work, what was changed before stays changed and the flows that were not finished get no spaces.
-/

namespace MixedScript.Spacing

/-- A space put between two children of a flow. -/
structure Splice where
  /-- The kind of the flow. -/
  container : Kind
  /-- The kind of the child on the left. -/
  left : Kind
  /-- The kind of the child on the right. -/
  right : Kind
  deriving DecidableEq, Repr

/-- How far a piece of work came: what became of its object, the spaces decided on in order, and the fault
that stopped it. -/
structure Run (α : Type) where
  /-- What became of the object. -/
  result : α
  /-- The spaces decided on. -/
  splices : List Splice
  /-- The fault that stopped the work. -/
  fault : Option Fault

/-- A run with its result changed. -/
def Run.map {α β : Type} (f : α → β) (r : Run α) : Run β :=
  ⟨f r.result, r.splices, r.fault⟩

/-- The reply to a question about one text, if it is a text. -/
def expectText (question : Question) : Reply Chars → Except Fault Chars
  | .value s => .ok s
  | .foreign typeName _ => .error (.broken question (.received typeName))

/-- The reply to the question for a space, if it is a truth value. -/
def expectDecision : Reply Bool → Except Fault Bool
  | .value b => .ok b
  | .foreign typeName _ => .error (.broken .wants (.received typeName))

/-- The reply to the question about a boundary, if all its parts are of their types. -/
def expectBoundary : Reply JoinReply → Except Fault (Boundary Bool)
  | .foreign typeName _ => .error (.broken .join (.received typeName))
  | .value reply =>
    match reply.left, reply.right with
    | .value l, .value r =>
      match reply.insertSpace, reply.owed with
      | .value s, .value o => .ok ⟨l, r, s, o⟩
      | _, _ => .error (.broken .join .foreignFlags)
    | _, _ => .error (.broken .join .foreignRuns)

/-- Stands in for a token, whose content is not looked at. -/
def sentinel : Chars := ['A']

/-- The text to ask about next to a token: the text itself, or the stand-in when nothing is left of it. -/
def anchor (trimmed : Chars) : Chars :=
  if trimmed.isEmpty then sentinel else trimmed

/-- A text that stands before a token, with exactly one space at its end or none. -/
def spaceBeforeToken (rules : Rules) (s : Chars) : Except Fault Chars := do
  let trimmed := trimRight s
  let space ← expectDecision (rules.wants (anchor trimmed) sentinel (trimmed != s))
  return if space then trimmed ++ [' '] else trimmed

/-- A text that stands after a token, with exactly one space at its start or none. -/
def spaceAfterToken (rules : Rules) (s : Chars) : Except Fault Chars := do
  let trimmed := trimLeft s
  let space ← expectDecision (rules.wants sentinel (anchor trimmed) (trimmed != s))
  return if space then ' ' :: trimmed else trimmed

/-- What a boundary hands on along the children of a flow. -/
structure Carry where
  /-- Whether written whitespace is still owed. -/
  owed : Bool
  /-- The last visible run along the chain of boundaries between texts. -/
  seen : Chars
  deriving DecidableEq, Repr

/-- Nothing owed and nothing seen. -/
def Carry.empty : Carry := ⟨false, []⟩

/-- A resolved boundary: the children on either side, whether a space goes between them, and what is handed
on. -/
structure Resolved where
  /-- The child on the left. -/
  left : Node
  /-- The child on the right. -/
  right : Node
  /-- Whether a space of its own goes between the children. -/
  space : Bool
  /-- What is handed on. -/
  carry : Carry

/-- Whether a node is a run of text itself, not a container that ends in one. -/
def isTextRun : Node → Bool
  | .text .. => true
  | _ => false

/-- Whether a leaf takes part in spacing as a token. -/
def isToken : Node → Bool
  | .math .. | .code .. => true
  | _ => false

/-- A run without spaces and tabs at its ends. -/
def visiblePart (s : Chars) : Chars :=
  Chars.trim Text.isInlineBlank s

/-- Whether a joined boundary repeats carried whitespace on the left: a run of text itself that holds nothing
but whitespace, with something visible on both of its sides. -/
def repeatsCarried (carry : Carry) (left : Node) (b : Boundary Bool) : Bool :=
  !b.left.isEmpty && (visiblePart b.left).isEmpty && !b.right.isEmpty && !carry.seen.isEmpty && isTextRun left

/-- Whether the left run of a joined boundary is kept. One that repeats carried whitespace is kept only if the
visible runs on its two sides want a space. -/
def keepsLeft (rules : Rules) (carry : Carry) (left : Node) (b : Boundary Bool) : Except Fault Bool :=
  if repeatsCarried carry left b then expectDecision (rules.wants carry.seen b.right true) else .ok true

/-- The children on either side of a joined boundary with their texts changed, and what is handed on. -/
def joinedTexts (carry : Carry) (left right : Node) (b : Boundary Bool) (kept : Bool) : Resolved :=
  let leftText := if kept then b.left else []
  let seen :=
    if !(visiblePart b.left).isEmpty then leftText
    else if isTextRun left then carry.seen
    else []
  ⟨left.mapLastLeaf (Node.withText leftText), right.mapFirstLeaf (Node.withText b.right), b.insertSpace,
    ⟨b.owed, seen⟩⟩

/-- Resolves the boundary between two texts: `leftText` ends the child on the left and `rightText` starts
the one on the right. -/
def resolveTexts (rules : Rules) (carry : Carry) (left right : Node) (leftText rightText : Chars) :
    Except Fault Resolved := do
  let b ← expectBoundary (rules.join leftText rightText carry.owed)
  let kept ← keepsLeft rules carry left b
  return joinedTexts carry left right b kept

/-- Resolves the boundary between two children of a flow. -/
def resolve (rules : Rules) (carry : Carry) (left right : Node) : Except Fault Resolved := do
  let leftLeaf ← left.lastLeaf.mapError .deadEnd
  let rightLeaf ← right.firstLeaf.mapError .deadEnd
  match leftLeaf, rightLeaf with
  | .text l _, .text r _ => resolveTexts rules carry left right l r
  | .text l _, leaf =>
    if isToken leaf then
      let s ← spaceBeforeToken rules l
      return ⟨left.mapLastLeaf (Node.withText s), right, false, .empty⟩
    else return ⟨left, right, false, .empty⟩
  | leaf, .text r _ =>
    if isToken leaf then
      let s ← spaceAfterToken rules r
      return ⟨left, right.mapFirstLeaf (Node.withText s), false, .empty⟩
    else return ⟨left, right, false, .empty⟩
  | _, _ => return ⟨left, right, false, .empty⟩

/-- An empty text becomes a space. -/
def repayLeaf : Node → Node
  | .text [] m => .text [' '] m
  | n => n

/-- The last child of a flow, with whitespace that is still owed written back to its first leaf, where the
boundary outside the flow can see it. -/
def repay (owed : Bool) (n : Node) : Node :=
  if owed then n.mapFirstLeaf repayLeaf else n

/-- A row of children, each with whether a space of its own follows it. -/
abbrev Row := List (Node × Bool)

/-- The children of a row with its spaces as nodes between them. -/
def weave : Row → List Node
  | [] => []
  | (n, true) :: rest => n :: Node.space :: weave rest
  | (n, false) :: rest => n :: weave rest

/-- The children of a row without its spaces. -/
def bare (row : Row) : List Node :=
  row.map Prod.fst

/-- A leaf tidied by a rule, or left alone when the reply is foreign. -/
def tidyLeaf (question : Question) (reply : Reply Chars) (old : Node) (new : Chars → Node) : Run Node :=
  match expectText question reply with
  | .ok s => ⟨new s, [], none⟩
  | .error f => ⟨old, [], some f⟩

mutual

/-- Spaces a node and everything below it. -/
def formatNode (rules : Rules) (options : SpacingOptions) : Node → Run Node
  | .group form cs m => (formatEach rules options cs).map (fun cs => .group form cs m)
  | .flow form cs m => (formatFlow rules options form.kind cs).map (fun cs => .flow form cs m)
  | .text s m =>
    if options.text then tidyLeaf .text (rules.text s) (.text s m) (fun s => .text s m)
    else ⟨.text s m, [], none⟩
  | .math form s m =>
    if options.math then tidyLeaf .math (rules.math s) (.math form s m) (fun s => .math form s m)
    else ⟨.math form s m, [], none⟩
  | .code s m => ⟨.code s m, [], none⟩
  | .note i cs m => ⟨.note i cs m, [], none⟩
  | .inert l m => ⟨.inert l m, [], none⟩

/-- Spaces the children of a group one after the other. -/
def formatEach (rules : Rules) (options : SpacingOptions) : List Node → Run (List Node)
  | [] => ⟨[], [], none⟩
  | n :: rest =>
    let r := formatNode rules options n
    match r.fault with
    | some f => ⟨r.result :: rest, r.splices, some f⟩
    | none =>
      let t := formatEach rules options rest
      ⟨r.result :: t.result, r.splices ++ t.splices, t.fault⟩

/-- Spaces the children of a flow and resolves the boundaries between them. -/
def formatFlow (rules : Rules) (options : SpacingOptions) (kind : Kind) : List Node → Run (List Node)
  | [] => ⟨[], [], none⟩
  | n :: rest =>
    let r := formatNode rules options n
    match r.fault with
    | some f => ⟨r.result :: rest, r.splices, some f⟩
    | none =>
      let t := formatRest rules options kind .empty r.result rest
      ⟨if t.fault.isSome then bare t.result else weave t.result, r.splices ++ t.splices, t.fault⟩

/-- Goes on along the children of a flow, given the child before, which has been spaced already. -/
def formatRest (rules : Rules) (options : SpacingOptions) (kind : Kind) (carry : Carry) (before : Node) :
    List Node → Run Row
  | [] => ⟨[(repay carry.owed before, false)], [], none⟩
  | n :: rest =>
    let r := formatNode rules options n
    let untouched : Row := rest.map (fun c => (c, false))
    match r.fault with
    | some f => ⟨(before, false) :: (r.result, false) :: untouched, r.splices, some f⟩
    | none =>
      match resolve rules carry before r.result with
      | .error f => ⟨(before, false) :: (r.result, false) :: untouched, r.splices, some f⟩
      | .ok b =>
        let own := if b.space then [⟨kind, b.left.kind, b.right.kind⟩] else []
        let t := formatRest rules options kind b.carry b.right rest
        ⟨(b.left, b.space) :: t.result, r.splices ++ own ++ t.splices, t.fault⟩

end

def format (rules : Rules) (options : SpacingOptions) (tree : Node) : Run Node :=
  formatNode rules options tree

end MixedScript.Spacing
