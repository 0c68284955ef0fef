import MixedScript.Proofs.Markdown.Cell
import MixedScript.Proofs.Markdown.LinkTarget

/-! The texts that the nodes of a line hold. No mark that is written around them is a carriage return, so that a
line has one only where one of the texts has. -/

namespace MixedScript.Markdown

variable {c : Context} {s t : Chars} {n : Node} {nodes : List Node}

/-- The texts of a leaf. -/
def heldTextsOfLeaf : Inert → List Chars
  | .codeBlock content _ | .htmlBlock content | .htmlInline content => [content]
  | .image url alt title => url :: alt :: title.toList
  | .imageReference identifier alt label _ => identifier :: alt :: label.toList
  | .definition identifier url title label => identifier :: url :: (title.toList ++ label.toList)
  | .footnoteReference identifier => [identifier]
  | _ => []

/-- The texts of a flow beside its content. -/
def heldTextsOfFlow : Flow → List Chars
  | .link url title => url :: title.toList
  | .linkReference identifier label _ => identifier :: label.toList
  | _ => []

mutual

/-- The texts that a node holds, with those below it. -/
def heldTexts : Node → List Chars
  | .group _ cs _ => heldTextsOf cs
  | .flow form cs _ => heldTextsOfFlow form ++ heldTextsOf cs
  | .text s _ => [s]
  | .math _ s _ => [s]
  | .code s _ => [s]
  | .note identifier cs _ => identifier :: heldTextsOf cs
  | .inert leaf _ => heldTextsOfLeaf leaf

/-- The texts that several nodes hold. -/
def heldTextsOf : List Node → List Chars
  | [] => []
  | n :: rest => heldTexts n ++ heldTextsOf rest

end

/-- No text has a carriage return. -/
def Returnless (texts : List Chars) : Prop :=
  ∀ s ∈ texts, '\r' ∉ s

theorem heldTextsOf_eq_flatMap (nodes : List Node)
    : heldTextsOf nodes = nodes.flatMap heldTexts := by
  induction nodes with
  | nil => rfl
  | cons n nodes ih => rw [heldTextsOf, ih, List.flatMap_cons]

theorem Returnless.node (free : Returnless (heldTextsOf nodes)) (held : n ∈ nodes)
    : Returnless (heldTexts n) := by
  intro s inside
  rw [heldTextsOf_eq_flatMap] at free
  exact free s (List.mem_flatMap.mpr ⟨n, held, inside⟩)

-----------------------------------------------------------------------------------------
-- Texts and their marks
-----------------------------------------------------------------------------------------

theorem return_not_mem_escapeFrom {inTable : Bool} {before : Option Char} (free : '\r' ∉ s)
    : '\r' ∉ escapeFrom inTable before s := by
  induction s generalizing before with
  | nil => exact free
  | cons x s ih =>
      obtain ⟨here, later⟩ := not_or.mp (List.mem_cons.not.mp free)
      unfold escapeFrom
      split <;> simp [here, ih later]

theorem return_not_mem_flatMap {f : Char → Chars} (free : '\r' ∉ s)
    (marks : ∀ x, '\r' ∈ f x → x = '\r')
    : '\r' ∉ s.flatMap f := by
  intro held
  obtain ⟨x, inside, shown⟩ := List.mem_flatMap.mp held
  exact free (marks x shown ▸ inside)

theorem return_not_mem_escapeBrackets (free : '\r' ∉ s)
    : '\r' ∉ escapeBrackets s := by
  refine return_not_mem_flatMap free (fun x shown => ?_)
  split at shown <;> simpa [eq_comm] using shown

theorem return_not_mem_titleSuffix {title : Option Chars} (free : Returnless title.toList)
    : '\r' ∉ titleSuffix title := by
  rcases title with - | - | ⟨first, more⟩
  · exact List.not_mem_nil
  · exact List.not_mem_nil
  · have escaped : '\r' ∉ (first :: more).flatMap escapeTitleChar := by
      refine return_not_mem_flatMap (free _ (by simp)) (fun x shown => ?_)
      unfold escapeTitleChar at shown
      split at shown <;> simpa [eq_comm] using shown
    simpa [titleSuffix] using escaped

theorem return_not_mem_destination (free : '\r' ∉ s)
    : '\r' ∉ destination s := by
  unfold destination
  split <;> simp [free]

theorem return_not_mem_ticks (s : Chars)
    : '\r' ∉ ticksFor s := by
  simp [ticksFor]

theorem return_not_mem_codeSpan (free : '\r' ∉ s)
    : '\r' ∉ codeSpan s := by
  unfold codeSpan
  split <;> simp [free, return_not_mem_ticks]

theorem return_not_mem_mathSpan (free : '\r' ∉ s)
    : '\r' ∉ mathSpan s := by
  unfold mathSpan
  split <;> simp [free, return_not_mem_ticks]

theorem return_not_mem_displayMath (free : '\r' ∉ s) (m : Mapping)
    : '\r' ∉ if hasMark m "inline" then displayMathSpan s else displayMathBlock s := by
  have cut : '\r' ∉ Chars.dropEndWhile (· == '\n') s := mt Chars.mem_of_mem_dropEndWhile free
  split <;> simp [displayMathSpan, displayMathBlock, free, cut]

theorem return_not_mem_referenceText {style : ReferenceStyle} {text identifier : Chars}
    {label : Option Chars} {isLabel : Chars → Bool} (text_free : '\r' ∉ text)
    (free : Returnless (identifier :: label.toList))
    : '\r' ∉ referenceText style text identifier label isLabel := by
  have named : '\r' ∉ referenceLabel identifier label := by
    rcases label with - | - | ⟨first, more⟩
    · exact free _ List.mem_cons_self
    · exact free _ List.mem_cons_self
    · exact free (first :: more) (by simp)
  have full : '\r' ∉ referenceText .full text identifier label isLabel := by
    simp [referenceText_full, text_free, named]
  cases style with
  | full => exact full
  | collapsed => simp [referenceText, text_free]
  | shortcut =>
      rw [referenceText_shortcut]
      split
      · simp [text_free]
      · exact full

theorem Returnless.head (free : Returnless (heldTextsOf (n :: nodes)))
    : Returnless (heldTexts n) :=
  free.node List.mem_cons_self

theorem Returnless.tail (free : Returnless (heldTextsOf (n :: nodes)))
    : Returnless (heldTextsOf nodes) :=
  fun s held => free s (List.mem_append_right _ held)

mutual

theorem return_not_mem_plainText (n : Node) (free : Returnless (heldTexts n))
    : '\r' ∉ n.plainText [] := by
  cases n with
  | text s => exact free s List.mem_cons_self
  | group form cs => exact return_not_mem_plainTextOf cs free
  | flow form cs =>
      exact return_not_mem_plainTextOf cs (fun s held => free s (List.mem_append_right _ held))
  | math | code | note | inert => exact List.not_mem_nil

theorem return_not_mem_plainTextOf (nodes : List Node) (free : Returnless (heldTextsOf nodes))
    : '\r' ∉ Node.plainTextOf [] nodes := by
  cases nodes with
  | nil => exact List.not_mem_nil
  | cons n nodes =>
      rw [plainTextOf_nil_cons, List.mem_append, not_or]
      exact ⟨return_not_mem_plainText n free.head, return_not_mem_plainTextOf nodes free.tail⟩

end

-----------------------------------------------------------------------------------------
-- Nodes
-----------------------------------------------------------------------------------------

theorem return_not_mem_blank (blank : isRestBlank s = true)
    : '\r' ∉ s := by
  intro held
  exact absurd (List.all_eq_true.mp blank _ held) (by decide)

theorem return_not_mem_wrap {d : Delimited} {lead delimiter trail : Chars} (content : '\r' ∉ d.content)
    (leading : isRestBlank lead = true) (trailing : isRestBlank trail = true) (mark : '\r' ∉ delimiter)
    : '\r' ∉ d.wrap lead delimiter trail := by
  simp [Delimited.wrap, content, return_not_mem_blank leading, return_not_mem_blank trailing, mark]

theorem return_not_mem_ofContent (delimiter : Delimiter) (free : '\r' ∉ s) (last next : Option Char)
    : '\r' ∉ (Piece.ofContent delimiter s).textIn last next := by
  by_cases filled : Chars.trim Text.isInlineBlank s = []
  · rw [Piece.ofContent, filled]
    exact free
  · obtain ⟨d, piece, same, content, leading, trailing⟩ := ofContent_visible delimiter filled
    have inside : '\r' ∉ d.content := by
      rw [content]
      exact fun held => free
        ((List.dropWhile_sublist _).subset (Chars.mem_of_mem_dropEndWhile held))
    rw [piece, Piece.textIn]
    cases delimiter with
    | deleted =>
        rw [Delimited.place, same]
        exact return_not_mem_wrap inside leading trailing (by decide)
    | emphasis tried strong =>
        obtain ⟨mark, lead, trail, placed, edges⟩ := d.exists_placed same
          (d.leading.getLast?.or last) (d.trailing.head?.or next)
        have marked : '\r' ∉ marks mark strong := by cases mark <;> cases strong <;> decide
        rw [placed]
        exact return_not_mem_wrap inside (edges.blank_lead leading) (edges.blank_trail trailing) marked

/-- No part of a line has a carriage return if no node adds one. -/
theorem return_not_mem_line {pieces : List Piece}
    (each : ∀ n ∈ nodes, ∀ c piece,
      writePiece c n = .ok piece → ∀ last next, '\r' ∉ piece.textIn last next)
    (listed : writePieces c nodes = .ok pieces) (last : Option Char)
    : '\r' ∉ (partsFrom last pieces).flatten := by
  induction nodes generalizing c pieces last with
  | nil =>
      cases listed
      exact List.not_mem_nil
  | cons n nodes ih =>
      obtain ⟨here, later⟩ := List.forall_mem_cons.mp each
      obtain ⟨piece, made, listed⟩ := bind_eq_ok.mp listed
      obtain ⟨rest, behind, listed⟩ := bind_eq_ok.mp listed
      obtain rfl := Except.ok.inj listed
      rw [partsFrom, List.flatten_cons, List.mem_append, not_or]
      exact ⟨here c piece made _ _, ih later behind _⟩

theorem return_not_mem_leaf {leaf : Inert} {m : Mapping} {options : WriterOptions} {part : Chars}
    (node : CellNode (.inert leaf m)) (free : Returnless (heldTextsOfLeaf leaf))
    (written : inertText options m leaf = .ok part)
    : '\r' ∉ part := by
  cases node with
  | tag =>
      cases written
      exact free _ List.mem_cons_self
  | @lineBreak soft =>
      cases written
      cases soft <;> decide
  | @image url alt title =>
      cases written
      have target := return_not_mem_destination (free url (by simp [heldTextsOfLeaf]))
      have text := return_not_mem_escapeBrackets (free alt (by simp [heldTextsOfLeaf]))
      have suffix := return_not_mem_titleSuffix
        (fun s held => free s (List.mem_cons_of_mem _ (List.mem_cons_of_mem _ held)))
      simp [target, text, suffix]
  | @imageReference identifier alt label style =>
      cases written
      have text := return_not_mem_escapeBrackets (free alt (by simp [heldTextsOfLeaf]))
      have names : Returnless (identifier :: label.toList) := by
        intro s held
        refine free s ?_
        rcases List.mem_cons.mp held with rfl | held
        · exact List.mem_cons_self
        · exact List.mem_cons_of_mem _ (List.mem_cons_of_mem _ held)
      simp [return_not_mem_referenceText text names]
  | @footnoteReference identifier =>
      cases written
      simpa using free identifier List.mem_cons_self

theorem CellNode.return_not_mem (node : CellNode n) (free : Returnless (heldTexts n)) {piece : Piece}
    (written : writePiece c n = .ok piece) (last next : Option Char)
    : '\r' ∉ piece.textIn last next := by
  have leaf : ∀ leaf m, CellNode (.inert leaf m) → Returnless (heldTextsOfLeaf leaf) →
      ∀ c piece, writePiece c (.inert leaf m) = .ok piece →
        ∀ last next, '\r' ∉ piece.textIn last next := by
    intro leaf m node free c piece written last next
    obtain ⟨part, made, same⟩ := bind_eq_ok.mp written
    cases same
    exact return_not_mem_leaf node free made
  induction node generalizing c piece last next with
  | @text s =>
      cases written
      have text := free s List.mem_cons_self
      unfold Context.text
      split
      · exact return_not_mem_escapeFrom text
      · exact text
  | @math form s m =>
      have text := free s List.mem_cons_self
      cases form <;> cases written
      · exact return_not_mem_mathSpan text
      · exact return_not_mem_displayMath text m
  | @code s =>
      cases written
      exact return_not_mem_codeSpan (free s List.mem_cons_self)
  | tag opens closes => exact leaf _ _ (.tag opens closes) free _ _ written _ _
  | lineBreak => exact leaf _ _ .lineBreak free _ _ written _ _
  | image => exact leaf _ _ .image free _ _ written _ _
  | imageReference => exact leaf _ _ .imageReference free _ _ written _ _
  | footnoteReference => exact leaf _ _ .footnoteReference free _ _ written _ _
  | @span form cs m span inside ih =>
      have below : Returnless (heldTextsOf cs) := fun s held => free s (List.mem_append_right _ held)
      have names : Returnless (heldTextsOfFlow form) := fun s held => free s (List.mem_append_left _ held)
      have line : ∀ c pieces, writePieces c cs = .ok pieces → '\r' ∉ assemble pieces := by
        intro c pieces listed
        rw [assemble, assembleFrom_eq_flatten]
        exact return_not_mem_line
          (fun n held c piece made => ih n held (below.node held) made) listed none
      cases form with
      | emphasis | strong | strikethrough =>
          obtain ⟨pieces, listed, same⟩ := bind_eq_ok.mp written
          cases same
          exact return_not_mem_ofContent _ (line _ _ listed) last next
      | link url title =>
          have target := return_not_mem_destination (names url List.mem_cons_self)
          have suffix := return_not_mem_titleSuffix (fun s held => names s (List.mem_cons_of_mem _ held))
          rw [writePiece] at written
          split at written
          · cases written
            simp [Piece.textIn, return_not_mem_plainTextOf cs below]
          · obtain ⟨pieces, listed, same⟩ := bind_eq_ok.mp written
            cases same
            simp [Piece.textIn, line _ _ listed, target, suffix]
      | linkReference identifier label style =>
          obtain ⟨pieces, listed, same⟩ := bind_eq_ok.mp written
          cases same
          exact return_not_mem_referenceText (line _ _ listed) names
      | _ => cases span

end MixedScript.Markdown
