import MixedScript.Markdown.TokenTree
import MixedScript.Proofs.Document.Descent
import MixedScript.Proofs.Document.EdgeLeaf
import MixedScript.Spacing.Transform
import Mathlib.Data.List.Chain
import Mathlib.Data.List.Forall2

/-! The nodes of tokens in a line. Runs of text that come together become one, also where a token between them is
left out; every other token that has a place in a line keeps it, and no text is lost or moved past one. -/

namespace MixedScript.Markdown

open Spacing (isTextRun)

-----------------------------------------------------------------------------------------
-- Tokens in a line
-----------------------------------------------------------------------------------------

/-- Types of tokens that stand for raw text or for nothing, and hold no tokens. -/
def TokenType.isRaw : TokenType → Bool
  | text | codeSpan | hardBreak | softBreak | inlineHtml | inlineMath | blockMath | footnoteReference => true
  | _ => false

/-- Types of tokens that hold the content of a node. -/
def TokenType.isSpan : TokenType → Bool
  | strong | emphasis | strikethrough | link => true
  | _ => false

/-- Types of tokens that have a place in a line. -/
def TokenType.isInline (type : TokenType) : Bool :=
  type.isRaw || type.isSpan || type == .image

/-- A token of a shape that its type allows: what stands for raw text holds no tokens. -/
inductive Token.WellFormed : Token → Prop
  | leaf {type raw a} : WellFormed (.leaf type raw a)
  | branch {type ts a} (holds : type.isRaw = false) (each : ∀ t ∈ ts, WellFormed t)
    : WellFormed (.branch type ts a)

/-- Whether a token has a place in a line and is no text. -/
def Token.isMarkup (t : Token) : Bool :=
  t.type.isInline && t.type != .text

mutual

/-- The texts in a token, save those inside images and inside tokens that have no place in a line. -/
def Token.lineText : Token → Chars
  | .leaf type raw _ => if type = .text then raw else []
  | .branch type ts _ => if type = .image ∨ type.isInline = false then [] else lineTextOf ts

/-- The texts in several tokens, one after the other. -/
def Token.lineTextOf : List Token → Chars
  | [] => []
  | t :: rest => t.lineText ++ lineTextOf rest

end

-----------------------------------------------------------------------------------------
-- Nodes and the tokens that they stand for
-----------------------------------------------------------------------------------------

/-- No two neighbours are texts. -/
def TextsApart (ns : List Node) : Prop :=
  ns.IsChain (fun n d => isTextRun n = true → isTextRun d = false)

/-- The nodes that are no texts. -/
def markupOf (ns : List Node) : List Node :=
  ns.filter (fun n => !isTextRun n)

/-- A node without content that a token stands for. -/
inductive LeafOf (labels : NoteLabels) : Token → Node → Prop
  | code {t m} (type : t.type = .codeSpan) : LeafOf labels t (.code t.raw m)
  | inlineMath {t m} (type : t.type = .inlineMath) : LeafOf labels t (.math .inline t.raw m)
  | blockMath {t m} (type : t.type = .blockMath) : LeafOf labels t (.math .block t.raw m)
  | hardBreak {t m} (type : t.type = .hardBreak) : LeafOf labels t (.inert (.lineBreak false) m)
  | softBreak {t m} (type : t.type = .softBreak) : LeafOf labels t (.inert (.lineBreak true) m)
  | html {t m} (type : t.type = .inlineHtml) : LeafOf labels t (.inert (.htmlInline t.raw) m)
  | note {t m} (type : t.type = .footnoteReference)
    : LeafOf labels t (.inert (.footnoteReference (labels.written t.raw)) m)
  | image {t m} (type : t.type = .image) (direct : t.attributes.ref = none)
    : LeafOf labels t (.inert
        (.image (restoreUrl t.attributes.url) (Token.plainTextOf t.children) t.attributes.title) m)
  | imageReference {t m key style} (type : t.type = .image) (named : t.attributes.ref = some key)
    : LeafOf labels t (.inert
        (.imageReference key (Token.plainTextOf t.children)
          (some (referenceLabel key t.attributes.label)) style) m)

/-- The form of the node that a token with content stands for. -/
inductive FormOf : Token → Flow → Prop
  | strong {t} (type : t.type = .strong) : FormOf t .strong
  | emphasis {t} (type : t.type = .emphasis) : FormOf t .emphasis
  | strikethrough {t} (type : t.type = .strikethrough) : FormOf t .strikethrough
  | link {t} (type : t.type = .link) (direct : t.attributes.ref = none)
    : FormOf t (.link (restoreUrl t.attributes.url) t.attributes.title)
  | reference {t key style} (type : t.type = .link) (named : t.attributes.ref = some key)
    : FormOf t (.linkReference key (some (referenceLabel key t.attributes.label)) style)

/-- A node stands for a token: it is of the same kind, and so are, one by one and in order, the nodes and tokens
inside that are no texts. -/
inductive StandsFor (labels : NoteLabels) : Token → Node → Prop
  | leaf {t n} (alike : LeafOf labels t n) : StandsFor labels t n
  | span {t form content m} (alike : FormOf t form)
      (inside : List.Forall₂ (StandsFor labels) (t.children.filter Token.isMarkup) (markupOf content))
    : StandsFor labels t (.flow form content m)

/-- What becomes of a token in a line. -/
inductive Becomes (labels : NoteLabels) : Token → Option Node → Prop
  | text {raw a} : Becomes labels (.leaf .text raw a) (some (.text raw []))
  | leaf {t n} (alike : LeafOf labels t n) : Becomes labels t (some n)
  | span {t form m} (alike : FormOf t form)
    : Becomes labels t (some (.flow form (inlineNodes labels t.children) m))
  | nothing {t} (unknown : t.type.isInline = false) : Becomes labels t none

variable {labels : NoteLabels} {t : Token} {ts : List Token} {n : Node} {ns : List Node}

theorem LeafOf.isContainer (alike : LeafOf labels t n)
    : n.isContainer = false := by
  cases alike <;> rfl

theorem LeafOf.isTextRun (alike : LeafOf labels t n)
    : isTextRun n = false := by
  cases alike <;> rfl

theorem LeafOf.textContent (alike : LeafOf labels t n)
    : n.textContent = [] := by
  cases alike <;> rfl

theorem LeafOf.type (alike : LeafOf labels t n)
    : t.type = .image ∨ t.type.isRaw = true ∧ t.type ≠ .text := by
  cases alike with
  | image type | imageReference type => exact .inl type
  | code type | inlineMath type | blockMath type | hardBreak type | softBreak type | html type
  | note type =>
      rw [type]
      exact .inr ⟨rfl, nofun⟩

theorem LeafOf.isMarkup (alike : LeafOf labels t n)
    : t.isMarkup = true := by
  rcases alike.type with image | ⟨raw, other⟩
  · simp [Token.isMarkup, TokenType.isInline, image]
  · simp [Token.isMarkup, TokenType.isInline, raw, other]

theorem LeafOf.lineText (alike : LeafOf labels t n) (wellFormed : t.WellFormed)
    : t.lineText = [] := by
  cases wellFormed with
  | leaf =>
      refine if_neg fun text => ?_
      rcases alike.type with image | ⟨-, other⟩
      · cases text.symm.trans image
      · exact other text
  | branch holds each =>
      rcases alike.type with image | ⟨raw, -⟩
      · exact if_pos (.inl image)
      · cases holds.symm.trans raw

theorem FormOf.isSpan {form : Flow} (alike : FormOf t form)
    : t.type.isSpan = true := by
  cases alike with
  | strong type | emphasis type | strikethrough type | link type | reference type => rw [type]; rfl

theorem FormOf.ne_text {form : Flow} (alike : FormOf t form)
    : t.type ≠ .text := by
  intro text
  have span := alike.isSpan
  rw [text] at span
  cases span

theorem FormOf.isMarkup {form : Flow} (alike : FormOf t form)
    : t.isMarkup = true := by
  simp [Token.isMarkup, TokenType.isInline, alike.isSpan, alike.ne_text]

theorem FormOf.lineText {form : Flow} (alike : FormOf t form)
    : t.lineText = Token.lineTextOf t.children := by
  cases t with
  | leaf type raw a => exact if_neg alike.ne_text
  | branch type ts a =>
      have span : type.isSpan = true := alike.isSpan
      refine if_neg fun hidden => ?_
      rcases hidden with image | unknown
      · rw [image] at span
        cases span
      · simp [TokenType.isInline, span] at unknown

theorem leafOf_imageNode (type : t.type = .image)
    : LeafOf labels t (imageNode (Token.plainTextOf t.children) t.attributes) := by
  unfold imageNode
  split
  · next key named => exact .imageReference type named
  · next direct => exact .image type direct

theorem exists_formOf_linkNode (type : t.type = .link) (content : List Node)
    : ∃ form m, FormOf t form ∧ linkNode t.children content t.attributes = .flow form content m := by
  unfold linkNode
  split
  · next key named => exact ⟨_, _, .reference type named, rfl⟩
  · next direct => exact ⟨_, _, .link type direct, rfl⟩

theorem becomes_linkNode (type : t.type = .link)
    : Becomes labels t (some (linkNode t.children (inlineNodes labels t.children) t.attributes)) := by
  obtain ⟨form, m, alike, same⟩ := exists_formOf_linkNode type (inlineNodes labels t.children)
  rw [same]
  exact .span alike

/-- The types of tokens fall into four classes, whatever shape a token has. -/
theorem becomes_inlineNode (labels : NoteLabels) (wellFormed : t.WellFormed)
    : Becomes labels t (inlineNode labels t) := by
  cases wellFormed with
  | @leaf type raw a =>
      cases type with
      | text => exact .text
      | strong => exact .span (.strong rfl)
      | emphasis => exact .span (.emphasis rfl)
      | strikethrough => exact .span (.strikethrough rfl)
      | link => exact becomes_linkNode (t := .leaf .link raw a) rfl
      | image => exact .leaf (leafOf_imageNode (t := .leaf .image raw a) rfl)
      | codeSpan => exact .leaf (.code rfl)
      | hardBreak => exact .leaf (.hardBreak rfl)
      | softBreak => exact .leaf (.softBreak rfl)
      | inlineHtml => exact .leaf (.html rfl)
      | inlineMath => exact .leaf (.inlineMath rfl)
      | blockMath => exact .leaf (.blockMath rfl)
      | footnoteReference => exact .leaf (.note rfl)
      | _ => exact .nothing rfl
  | @branch type ts a holds each =>
      cases type with
      | strong => exact .span (.strong rfl)
      | emphasis => exact .span (.emphasis rfl)
      | strikethrough => exact .span (.strikethrough rfl)
      | link => exact becomes_linkNode (t := .branch .link ts a) rfl
      | image => exact .leaf (leafOf_imageNode (t := .branch .image ts a) rfl)
      | text | codeSpan | hardBreak | softBreak | inlineHtml | inlineMath | blockMath | footnoteReference =>
          cases holds
      | _ => exact .nothing rfl

-----------------------------------------------------------------------------------------
-- Merging
-----------------------------------------------------------------------------------------

theorem consMerging_of_other (other : isTextRun n = false) (ns : List Node)
    : consMerging n ns = n :: ns := by
  cases n <;> first | rfl | cases other

/-- Two texts that come together become one; anything else is put in front of what follows. -/
theorem consMerging_cases (n : Node) (ns : List Node)
    : (∃ s m r m' rest,
        n = .text s m ∧ ns = .text r m' :: rest ∧ consMerging n ns = .text (s ++ r) m :: rest)
      ∨ (isTextRun n = true → ∀ d ∈ ns.head?, isTextRun d = false) ∧ consMerging n ns = n :: ns := by
  cases n with
  | text s m =>
      cases ns with
      | nil => exact .inr ⟨nofun, rfl⟩
      | cons d rest =>
          cases d with
          | text r m' => exact .inl ⟨s, m, r, m', rest, rfl, rfl, rfl⟩
          | group | flow | math | code | note | inert => exact .inr ⟨by simp [isTextRun], rfl⟩
  | group | flow | math | code | note | inert => exact .inr ⟨nofun, rfl⟩

theorem textsApart_consMerging (apart : TextsApart ns) (n : Node)
    : TextsApart (consMerging n ns) := by
  rcases consMerging_cases n ns with ⟨s, m, r, m', rest, rfl, rfl, merged⟩ | ⟨other, kept⟩
  · rw [merged]
    exact List.isChain_cons.mpr (List.isChain_cons.mp apart)
  · rw [kept]
    exact List.isChain_cons.mpr ⟨fun d first runs => other runs d first, apart⟩

theorem markupOf_consMerging (n : Node) (ns : List Node)
    : markupOf (consMerging n ns) = markupOf [n] ++ markupOf ns := by
  rcases consMerging_cases n ns with ⟨s, m, r, m', rest, rfl, rfl, merged⟩ | ⟨-, kept⟩
  · rw [merged]
    rfl
  · rw [kept]
    exact List.filter_append [n] ns

/-- The texts below nodes, one after the other. -/
def textBelow (ns : List Node) : Chars :=
  (Node.leavesOf ns).flatMap Node.textContent

theorem textBelow_cons (n : Node) (ns : List Node)
    : textBelow (n :: ns) = n.leaves.flatMap Node.textContent ++ textBelow ns := by
  rw [textBelow, Node.leavesOf, List.flatMap_append]
  rfl

theorem textBelow_consMerging (n : Node) (ns : List Node)
    : textBelow (consMerging n ns) = n.leaves.flatMap Node.textContent ++ textBelow ns := by
  rcases consMerging_cases n ns with ⟨s, m, r, m', rest, rfl, rfl, merged⟩ | ⟨-, kept⟩
  · rw [merged, textBelow_cons, textBelow_cons]
    simp [Node.leaves, Node.textContent]
  · rw [kept, textBelow_cons]

/-- Merging makes texts only. -/
theorem mem_consMerging {d : Node} (held : d ∈ consMerging n ns)
    : d = n ∨ d ∈ ns ∨ d.isContainer = false := by
  rcases consMerging_cases n ns with ⟨s, m, r, m', rest, rfl, rfl, merged⟩ | ⟨-, kept⟩
  · rw [merged] at held
    rcases List.mem_cons.mp held with rfl | later
    · exact .inr (.inr rfl)
    · exact .inr (.inl (List.mem_cons_of_mem _ later))
  · rw [kept] at held
    exact (List.mem_cons.mp held).imp_right .inl

/-- Merging does not reach past what is no text. -/
theorem consMerging_append (other : isTextRun n = false) (d : Node) (ns rest : List Node)
    : consMerging d (ns ++ n :: rest) = consMerging d ns ++ n :: rest := by
  cases d with
  | text s m =>
      cases ns with
      | nil => cases n <;> first | rfl | cases other
      | cons first ns => cases first <;> rfl
  | group | flow | math | code | note | inert => rfl

-----------------------------------------------------------------------------------------
-- Lines
-----------------------------------------------------------------------------------------

/-- Texts are apart among the children of a node and in every node below. -/
def TextsApartBelow (n : Node) : Prop :=
  ∀ d, n.Below d → TextsApart d.children

theorem textsApartBelow_of_leaf (leaf : n.isContainer = false)
    : TextsApartBelow n := by
  have childless : n.children = [] := by cases n <;> first | rfl | cases leaf
  intro d below
  cases below with
  | here =>
      rw [childless]
      exact .nil
  | child held =>
      rw [childless] at held
      cases held

/-- What the nodes of tokens in a line keep of them. -/
structure Gathers (labels : NoteLabels) (ts : List Token) (ns : List Node) : Prop where
  apart : TextsApart ns
  below : ∀ n ∈ ns, TextsApartBelow n
  /-- The nodes that are no texts stand for the tokens that have a place in the line and are no texts. -/
  stands : List.Forall₂ (StandsFor labels) (ts.filter Token.isMarkup) (markupOf ns)
  text : textBelow ns = Token.lineTextOf ts

theorem Gathers.nil
    : Gathers labels [] [] :=
  ⟨.nil, nofun, .nil, rfl⟩

theorem lineText_of_unknown (unknown : t.type.isInline = false)
    : t.lineText = [] := by
  cases t with
  | leaf type raw a =>
      refine if_neg fun text => ?_
      rw [show (Token.leaf type raw a).type = .text from text] at unknown
      cases unknown
  | branch type ts a => exact if_pos (.inr unknown)

theorem Gathers.skip (gathers : Gathers labels ts ns) (unknown : t.type.isInline = false)
    : Gathers labels (t :: ts) ns where
  apart := gathers.apart
  below := gathers.below
  stands := by
    rw [List.filter_cons_of_neg (by simp [Token.isMarkup, unknown])]
    exact gathers.stands
  text := by
    rw [Token.lineTextOf, lineText_of_unknown unknown]
    exact gathers.text

/-- A node that keeps what there is to keep of its token joins the nodes of the tokens behind. -/
theorem Gathers.cons (gathers : Gathers labels ts ns) (below : TextsApartBelow n)
    (stands : List.Forall₂ (StandsFor labels) ([t].filter Token.isMarkup) (markupOf [n]))
    (text : n.leaves.flatMap Node.textContent = t.lineText)
    : Gathers labels (t :: ts) (consMerging n ns) where
  apart := textsApart_consMerging gathers.apart n
  below := by
    intro d held
    rcases mem_consMerging held with rfl | later | leaf
    · exact below
    · exact gathers.below d later
    · exact textsApartBelow_of_leaf leaf
  stands := by
    rw [markupOf_consMerging, ← List.singleton_append, List.filter_append]
    exact List.rel_append stands gathers.stands
  text := by
    rw [textBelow_consMerging, text, gathers.text, Token.lineTextOf]

theorem LeafOf.text (alike : LeafOf labels t n) (wellFormed : t.WellFormed)
    : n.leaves.flatMap Node.textContent = t.lineText := by
  rw [Node.leaves_of_leaf alike.isContainer, alike.lineText wellFormed, List.flatMap_singleton]
  exact alike.textContent

theorem stands_single (stands : StandsFor labels t n) (markup : t.isMarkup = true)
    (other : isTextRun n = false)
    : List.Forall₂ (StandsFor labels) ([t].filter Token.isMarkup) (markupOf [n]) := by
  rw [List.filter_cons_of_pos markup, markupOf, List.filter_cons_of_pos (by simp [other])]
  exact .cons stands .nil

/-- Content that gathers the tokens inside a token makes a node that stands for it. -/
theorem Gathers.flow {content : List Node} {form : Flow} {m : Mapping}
    (gathers : Gathers labels ts ns) (alike : FormOf t form)
    (inside : Gathers labels t.children content)
    : Gathers labels (t :: ts) (consMerging (.flow form content m) ns) := by
  refine gathers.cons ?_ (stands_single (.span alike inside.stands) alike.isMarkup rfl) ?_
  · intro d below
    cases below with
    | here => exact inside.apart
    | child held below => exact inside.below _ held d below
  · exact inside.text.trans alike.lineText.symm

theorem Token.WellFormed.children (wellFormed : t.WellFormed)
    : ∀ c ∈ t.children, c.WellFormed := by
  cases wellFormed with
  | leaf => nofun
  | branch holds each => exact each

theorem sizeOf_children_lt (t : Token) (ts : List Token)
    : sizeOf t.children < sizeOf (t :: ts) := by
  cases t <;> simp [Token.children] <;> omega

/-- By recursion on the tokens, those inside a token and those behind it. -/
theorem inlineNodes_gathers (labels : NoteLabels) (ts : List Token)
    (wellFormed : ∀ t ∈ ts, t.WellFormed)
    : Gathers labels ts (inlineNodes labels ts) := by
  match ts with
  | [] => exact .nil
  | t :: ts =>
      obtain ⟨head, tail⟩ := List.forall_mem_cons.mp wellFormed
      have gathers := inlineNodes_gathers labels ts tail
      have becomes := becomes_inlineNode labels head
      rw [inlineNodes]
      generalize inlineNode labels t = outcome at becomes ⊢
      cases becomes with
      | text =>
          refine gathers.cons (textsApartBelow_of_leaf rfl) .nil ?_
          exact List.append_nil _
      | leaf alike =>
          exact gathers.cons (textsApartBelow_of_leaf alike.isContainer)
            (stands_single (.leaf alike) alike.isMarkup alike.isTextRun) (alike.text head)
      | span alike =>
          -- The content of a node is gathered as its line is, one level down.
          have smaller := sizeOf_children_lt t ts
          exact gathers.flow alike (inlineNodes_gathers labels t.children head.children)
      | nothing unknown => exact gathers.skip unknown
termination_by sizeOf ts

/-- A token that has a place in a line and is no text has a node there that is none. -/
theorem exists_inlineNode (labels : NoteLabels) (wellFormed : t.WellFormed)
    (markup : t.isMarkup = true)
    : ∃ n, inlineNode labels t = some n ∧ StandsFor labels t n ∧ isTextRun n = false := by
  have becomes := becomes_inlineNode labels wellFormed
  generalize inlineNode labels t = outcome at becomes ⊢
  cases becomes with
  | text => cases markup
  | leaf alike => exact ⟨_, rfl, .leaf alike, alike.isTextRun⟩
  | span alike =>
      have inside := inlineNodes_gathers labels t.children wellFormed.children
      exact ⟨_, rfl, .span alike inside.stands, rfl⟩
  | nothing unknown => simp [Token.isMarkup, unknown] at markup

/-- Where a token stands for a node, the tokens before it and those behind it are gathered apart. -/
theorem exists_inlineNodes_split (wellFormed : t.WellFormed) (markup : t.isMarkup = true)
    (before behind : List Token)
    : ∃ n, StandsFor labels t n
        ∧ inlineNodes labels (before ++ t :: behind)
          = inlineNodes labels before ++ n :: inlineNodes labels behind := by
  obtain ⟨n, found, stands, other⟩ := exists_inlineNode labels wellFormed markup
  refine ⟨n, stands, ?_⟩
  induction before with
  | nil =>
      simp only [List.nil_append, inlineNodes, found]
      exact consMerging_of_other other _
  | cons first before ih =>
      rw [List.cons_append, inlineNodes, inlineNodes, ih]
      cases inlineNode labels first with
      | none => rfl
      | some d => exact consMerging_append other d _ _

/-- Tokens in a line lose no text and no markup. In their nodes, and in the content of every node below them, no
two neighbours are texts; the nodes that are no texts stand one by one and in order for the tokens that have a
place in the line and are no texts; and all the texts together are those of the tokens, save those in images and
in tokens without a place in a line. No text is moved past a node that is none. -/
theorem inlineNodes_merge_texts (labels : NoteLabels) (ts : List Token)
    (wellFormed : ∀ t ∈ ts, t.WellFormed)
    : TextsApart (inlineNodes labels ts)
      ∧ (∀ n ∈ inlineNodes labels ts, ∀ d, n.Below d → TextsApart d.children)
      ∧ List.Forall₂ (StandsFor labels) (ts.filter Token.isMarkup) (markupOf (inlineNodes labels ts))
      ∧ textBelow (inlineNodes labels ts) = Token.lineTextOf ts
      ∧ ∀ before t behind,
          ts = before ++ t :: behind
          → t.isMarkup = true
          → ∃ n, StandsFor labels t n
              ∧ inlineNodes labels ts
                = inlineNodes labels before ++ n :: inlineNodes labels behind := by
  have gathers := inlineNodes_gathers labels ts wellFormed
  refine ⟨gathers.apart, gathers.below, gathers.stands, gathers.text, ?_⟩
  intro before t behind split markup
  have held : t ∈ ts := by simp [split]
  rw [split]
  exact exists_inlineNodes_split (wellFormed t held) markup before behind

/-- Texts on both sides of a token without a place in a line, and inside and around strong text with an image. -/
def splitTexts : List Token := [
  .leaf .text ['a'] {},
  .branch (.unknown "ruby") [.leaf .text ['x'] {}] {},
  .leaf .text ['b'] {},
  .branch .strong [
    .leaf .text ['c'] {},
    .branch .image [.leaf .text ['y'] {}] { url := ['u'] },
    .leaf .text ['d'] {},
    .leaf .blankLine [] {},
    .leaf .text ['e'] {}] {},
  .leaf .text ['f'] {}]

/-- The texts before the strong text become one, and so do those behind the image; neither that of the unknown
token nor that of the image is among them. -/
theorem splitTexts_merge
    : (∀ t ∈ splitTexts, t.WellFormed)
      ∧ TextsApart (inlineNodes [] splitTexts)
      ∧ textBelow (inlineNodes [] splitTexts) = ['a', 'b', 'c', 'd', 'e', 'f']
      ∧ inlineNodes [] splitTexts = [
          .text ['a', 'b'] [],
          .flow .strong [.text ['c'] [], .inert (.image ['u'] ['y'] none) [], .text ['d', 'e'] []] [],
          .text ['f'] []] := by
  have single : ∀ s, ∀ t ∈ [Token.leaf .text s {}], t.WellFormed :=
    fun s => List.forall_mem_singleton.mpr .leaf
  have wellFormed : ∀ t ∈ splitTexts, t.WellFormed := by
    simp only [splitTexts, List.forall_mem_cons]
    refine ⟨.leaf, .branch rfl (single _), .leaf, .branch rfl ?_, .leaf, nofun⟩
    simp only [List.forall_mem_cons]
    exact ⟨.leaf, .branch rfl (single _), .leaf, .leaf, .leaf, nofun⟩
  obtain ⟨apart, -, -, text, -⟩ := inlineNodes_merge_texts [] splitTexts wellFormed
  exact ⟨wellFormed, apart, text, rfl⟩

end MixedScript.Markdown
