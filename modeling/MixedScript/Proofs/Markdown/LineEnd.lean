import MixedScript.Proofs.Markdown.Cell
import MixedScript.Proofs.Text.Trim
import Mathlib.Data.List.Forall2

/-! How a line of nodes ends. A run of text keeps its last character, and whatever else shows ends in a mark of
its own. Spans of spaces and tabs only are written without their marks, so that what stands before them
counts. -/

namespace MixedScript.Markdown

variable {c : Context} {p : Char → Bool} {x : Char} {s t part : Chars} {n : Node} {nodes : List Node}
  {inTable : Bool}

-----------------------------------------------------------------------------------------
-- Escaped ends
-----------------------------------------------------------------------------------------

theorem visible_of_mustEscape {before after : Option Char}
    (escape : mustEscape inTable before x after = true)
    : Text.isBlank x = false := by
  simp only [mustEscape, Bool.or_eq_true, Bool.and_eq_true, beq_iff_eq,
    List.contains_iff_mem] at escape
  have always : alwaysEscaped.all (fun x => !Text.isBlank x) = true := by decide
  rcases escape with ((held | ⟨rfl, -⟩) | ⟨rfl, -⟩) | ⟨rfl, -⟩
  · simpa using List.all_eq_true.mp always x held
  all_goals decide

/-- A character of a run stays the last of what it becomes, and visible or not. -/
theorem exists_escapeFrom_cons (inTable : Bool) (before : Option Char) (x : Char) (s : Chars)
    : ∃ start,
        escapeFrom inTable before (x :: s) = start ++ escapeFrom inTable (some x) s
        ∧ start.getLast? = some x
        ∧ ∀ p : Char → Bool, (∀ y, p y = true → Text.isBlank y = true) →
            ((∀ y ∈ start, p y = true) ↔ p x = true) := by
  rw [escapeFrom]
  split
  · next escape =>
      refine ⟨['\\', x], rfl, rfl, fun p within => ?_⟩
      have visible := visible_of_mustEscape escape
      have backslash : Text.isBlank '\\' = false := by decide
      constructor
      · intro each
        exact each x (by simp)
      · intro blank
        rw [within x blank] at visible
        cases visible
  · exact ⟨[x], rfl, rfl, fun p _ => List.forall_mem_singleton⟩

theorem forall_mem_escapeFrom (within : ∀ y, p y = true → Text.isBlank y = true)
    (before : Option Char) (s : Chars)
    : (∀ y ∈ escapeFrom inTable before s, p y = true) ↔ ∀ y ∈ s, p y = true := by
  induction s generalizing before with
  | nil => exact Iff.rfl
  | cons x s ih =>
      obtain ⟨start, escaped, -, kept⟩ := exists_escapeFrom_cons inTable before x s
      rw [escaped, List.forall_mem_append, kept p within, ih, List.forall_mem_cons]

/-- Number signs and blanks behind another character are not escaped. -/
theorem escapeFrom_signs (signs : ∀ y ∈ t, y = '#' ∨ Text.isBlank y = true) (x : Char)
    : escapeFrom inTable (some x) t = t := by
  induction t generalizing x with
  | nil => rfl
  | cons y t ih =>
      obtain ⟨here, later⟩ := List.forall_mem_cons.mp signs
      have kept : ¬ mustEscape inTable (some x) y t.head? = true := by
        rcases here with rfl | blank
        · simp [mustEscape, alwaysEscaped]
        · intro escape
          rw [visible_of_mustEscape escape] at blank
          cases blank
      rw [escapeFrom, if_neg kept, ih later]

/-- What is escaped before number signs and blanks ends as it did. -/
theorem exists_escapeFrom_append (inTable : Bool) (before : Option Char)
    (signs : ∀ y ∈ t, y = '#' ∨ Text.isBlank y = true) (filled : s ≠ [])
    : ∃ escaped,
        escapeFrom inTable before (s ++ t) = escaped ++ t
        ∧ escaped.getLast? = s.getLast?
        ∧ ((∀ y ∈ escaped, Text.isBlank y = true) ↔ ∀ y ∈ s, Text.isBlank y = true) := by
  induction s generalizing before with
  | nil => exact absurd rfl filled
  | cons x s ih =>
      obtain ⟨start, first, last, kept⟩ := exists_escapeFrom_cons inTable before x (s ++ t)
      have blank := kept Text.isBlank (fun _ => id)
      cases s with
      | nil =>
          refine ⟨start, ?_, last, by simpa using blank⟩
          rw [List.cons_append, first, List.nil_append, escapeFrom_signs signs]
      | cons y s =>
          obtain ⟨escaped, later, ends, same⟩ := ih (some x) (List.cons_ne_nil _ _)
          refine ⟨start ++ escaped, ?_, ?_, ?_⟩
          · rw [List.cons_append, first, later, List.append_assoc]
          · rw [List.getLast?_append, ends, List.getLast?_cons_cons, List.getLast?_cons]
            rfl
          · rw [List.forall_mem_append, blank, same, List.forall_mem_cons (a := x)]

-----------------------------------------------------------------------------------------
-- Visible ends
-----------------------------------------------------------------------------------------

/-- A text whose last visible character is there and is no number sign. -/
def SolidEnd (part : Chars) : Prop :=
  ∃ x, (Chars.stripEnd part).getLast? = some x ∧ x ≠ '#'

theorem solidEnd_of_getLast? (last : part.getLast? = some x) (visible : Text.isBlank x = false)
    (other : x ≠ '#')
    : SolidEnd part := by
  refine ⟨x, ?_, other⟩
  rw [Chars.stripEnd, Chars.dropEndWhile_of_getLast?, last]
  intro y same
  rw [last] at same
  cases same
  exact visible

theorem SolidEnd.append (solid : SolidEnd s) (blank : ∀ y ∈ t, Text.isBlank y = true)
    : SolidEnd (s ++ t) := by
  obtain ⟨x, last, other⟩ := solid
  exact ⟨x, by rw [Chars.stripEnd, Chars.dropEndWhile_append blank]; exact last, other⟩

theorem SolidEnd.behind (solid : SolidEnd t) (s : Chars)
    : SolidEnd (s ++ t) := by
  obtain ⟨x, last, other⟩ := solid
  have kept : Chars.dropEndWhile Text.isBlank t ≠ [] := by
    intro empty
    rw [Chars.stripEnd, empty] at last
    cases last
  refine ⟨x, ?_, other⟩
  rw [Chars.stripEnd, Chars.dropEndWhile_append_of_ne_nil kept, List.getLast?_append_of_ne_nil _ kept]
  exact last

theorem SolidEnd.exists_visible (solid : SolidEnd s)
    : ∃ x ∈ s, Text.isBlank x = false := by
  obtain ⟨x, last, -⟩ := solid
  exact ⟨x, Chars.mem_of_mem_dropEndWhile (List.mem_of_getLast? last),
    Chars.getLast?_dropEndWhile last⟩

theorem solidEnd_wrap {d : Delimited} {lead delimiter trail : Chars}
    (last : delimiter.getLast? = some x) (visible : Text.isBlank x = false) (other : x ≠ '#')
    (trailing : isRestBlank trail = true)
    : SolidEnd (d.wrap lead delimiter trail) := by
  have marked : (lead ++ delimiter ++ d.content ++ delimiter).getLast? = some x := by
    rw [List.getLast?_append, last]
    rfl
  refine (solidEnd_of_getLast? marked visible other).append (fun y held => ?_)
  exact Spacing.isBlank_of_isInlineBlank (List.all_eq_true.mp trailing y held)

theorem ofContent_blank (blank : isRestBlank s = true) (delimiter : Delimiter)
    : Piece.ofContent delimiter s = .plain s := by
  rw [Piece.ofContent, trim_of_blank blank]

/-- Delimiters that are written end what they hold. -/
theorem solidEnd_ofContent (delimiter : Delimiter) (visible : isRestBlank s = false)
    (last next : Option Char)
    : SolidEnd ((Piece.ofContent delimiter s).textIn last next) := by
  have filled : Chars.trim Text.isInlineBlank s ≠ [] := by
    intro empty
    rw [isRestBlank, List.all_eq_true.mpr (Chars.trim_eq_nil.mp empty)] at visible
    cases visible
  obtain ⟨d, piece, same, -, -, trailing⟩ := ofContent_visible delimiter filled
  rw [piece, Piece.textIn]
  cases delimiter with
  | deleted =>
      rw [Delimited.place, same]
      exact solidEnd_wrap (x := '~') rfl (by decide) (by decide) trailing
  | emphasis tried strong =>
      obtain ⟨mark, lead, trail, placed, edges⟩ := d.exists_placed same
        (d.leading.getLast?.or last) (d.trailing.head?.or next)
      obtain ⟨start, marked⟩ := marks_last mark strong
      rw [placed]
      refine solidEnd_wrap (x := mark.char) ?_ ?_ ?_ (edges.blank_trail trailing)
      · rw [marked, List.getLast?_concat]
      · cases mark <;> decide
      · cases mark <;> decide

-----------------------------------------------------------------------------------------
-- Nodes
-----------------------------------------------------------------------------------------

mutual

/-- Whether a node in a line is written as spaces and tabs. -/
def isBare : Node → Bool
  | .text s _ => isRestBlank s
  | .flow .emphasis cs _ => areBare cs
  | .flow .strong cs _ => areBare cs
  | .flow .strikethrough cs _ => areBare cs
  | _ => false

/-- Whether nodes in a line are written as spaces and tabs. -/
def areBare : List Node → Bool
  | [] => true
  | n :: rest => isBare n && areBare rest

end

/-- Whether a node in a line is written as blanks. -/
def isFaint : Node → Bool
  | .text s _ => s.all Text.isBlank
  | .inert (.lineBreak _) _ => true
  | n => isBare n

/-- What a node in a line ends with. -/
inductive Ends (c : Context) : Node → Chars → Prop
  | text {s m} : Ends c (.text s m) (escapeText c.inTable s)
  | bare {n : Node} {part : Chars} (faint : isFaint n = isBare n) (bare : isBare n = true)
    (blank : isRestBlank part = true) : Ends c n part
  | lineBreak {soft m} : Ends c (.inert (.lineBreak soft) m) (if soft then ['\n'] else [' ', ' ', '\n'])
  | solid {n : Node} {part : Chars} (other : ∀ s m, n ≠ .text s m) (faint : isFaint n = false)
    (bare : isBare n = false) (solid : SolidEnd part) : Ends c n part

theorem Ends.bare_iff (ends : Ends c n part)
    : isBare n = true ↔ isRestBlank part = true := by
  cases ends with
  | text =>
      simp only [isBare, isRestBlank, List.all_eq_true]
      exact (forall_mem_escapeFrom (fun _ => Spacing.isBlank_of_isInlineBlank) none _).symm
  | bare _ bare blank => exact iff_of_true bare blank
  | @lineBreak soft m =>
      refine iff_of_false Bool.false_ne_true ?_
      cases soft <;> decide
  | solid _ _ bare solid =>
      rw [bare]
      refine iff_of_false Bool.false_ne_true (fun blank => ?_)
      obtain ⟨x, held, visible⟩ := solid.exists_visible
      rw [Spacing.isBlank_of_isInlineBlank (List.all_eq_true.mp blank x held)] at visible
      cases visible

theorem Ends.faint_iff (ends : Ends c n part)
    : isFaint n = true ↔ ∀ x ∈ part, Text.isBlank x = true := by
  cases ends with
  | text =>
      simp only [isFaint, List.all_eq_true]
      exact (forall_mem_escapeFrom (fun _ => id) none _).symm
  | bare faint bare blank =>
      rw [faint]
      exact iff_of_true bare
        (fun x held => Spacing.isBlank_of_isInlineBlank (List.all_eq_true.mp blank x held))
  | @lineBreak soft m =>
      refine iff_of_true rfl ?_
      exact List.all_eq_true.mp (by cases soft <;> decide)
  | solid _ faint _ solid =>
      rw [faint]
      refine iff_of_false Bool.false_ne_true (fun blank => ?_)
      obtain ⟨x, held, visible⟩ := solid.exists_visible
      rw [blank x held] at visible
      cases visible

theorem areBare_iff {parts : List Chars} (ends : List.Forall₂ (Ends c) nodes parts)
    : areBare nodes = true ↔ isRestBlank parts.flatten = true := by
  induction ends with
  | nil => exact iff_of_true rfl rfl
  | cons here later ih =>
      rw [areBare, Bool.and_eq_true, here.bare_iff, ih, List.flatten_cons, isRestBlank, isRestBlank,
        isRestBlank, List.all_append, Bool.and_eq_true]

theorem faint_iff {parts : List Chars} (ends : List.Forall₂ (Ends c) nodes parts)
    : nodes.all isFaint = true ↔ ∀ x ∈ parts.flatten, Text.isBlank x = true := by
  induction ends with
  | nil => exact iff_of_true rfl (List.forall_mem_nil _)
  | cons here later ih =>
      rw [List.all_cons, Bool.and_eq_true, here.faint_iff, ih, List.flatten_cons,
        List.forall_mem_append]

/-- The part of a node that always ends in the same mark. -/
theorem Ends.of_mark (other : ∀ s m, n ≠ .text s m) (faint : isFaint n = false)
    (bare : isBare n = false) (last : part.getLast? = some x)
    (mark : x ∈ ['$', '\x60', '>', ')', ']'])
    : Ends c n part := by
  have marks : ['$', '\x60', '>', ')', ']'].all (fun x => !Text.isBlank x && x != '#') = true := by
    decide
  obtain ⟨visible, sign⟩ : Text.isBlank x = false ∧ x ≠ '#' := by
    simpa using List.all_eq_true.mp marks x mark
  exact .solid other faint bare (solidEnd_of_getLast? last visible sign)

theorem getLast?_ticksFor (s : Chars)
    : (ticksFor s).getLast? = some '\x60' := by
  simp [ticksFor, List.getLast?_replicate]

theorem getLast?_codeSpan (s : Chars)
    : (codeSpan s).getLast? = some '\x60' := by
  simp [codeSpan, List.getLast?_append, getLast?_ticksFor]

theorem exists_ends_math (form : MathForm) (s : Chars) (m : Mapping)
    : ∃ part, writePiece c (.math form s m) = .ok (.plain part) ∧ part.getLast? = some '$' := by
  cases form with
  | inline =>
      refine ⟨mathSpan s, rfl, ?_⟩
      unfold mathSpan
      split <;> simp [List.getLast?_cons]
  | block =>
      refine ⟨_, rfl, ?_⟩
      split
      · simp [displayMathSpan, List.getLast?_cons]
      · simp [displayMathBlock, List.getLast?_cons]

theorem getLast?_referenceText (style : ReferenceStyle) (text identifier : Chars)
    (label : Option Chars) (isLabel : Chars → Bool)
    : (referenceText style text identifier label isLabel).getLast? = some ']' := by
  have full : (referenceText .full text identifier label isLabel).getLast? = some ']' := by
    simp [referenceText_full, List.getLast?_cons]
  cases style with
  | full => exact full
  | collapsed => simp [referenceText, List.getLast?_cons]
  | shortcut =>
      rw [referenceText_shortcut]
      split
      · simp [List.getLast?_cons]
      · exact full

theorem exists_ends_leaf {leaf : Inert} {m : Mapping} (node : CellNode (.inert leaf m))
    (options : WriterOptions)
    : ∃ part, inertText options m leaf = .ok part ∧ Ends c (.inert leaf m) part := by
  cases node with
  | tag _ closes => exact ⟨_, rfl, .of_mark (fun _ _ => Node.noConfusion) rfl rfl closes (by decide)⟩
  | lineBreak => exact ⟨_, rfl, .lineBreak⟩
  | image =>
      refine ⟨_, rfl, .of_mark (x := ')') (fun _ _ => Node.noConfusion) rfl rfl ?_ (by decide)⟩
      simp [List.getLast?_cons]
  | imageReference =>
      refine ⟨_, rfl, .of_mark (x := ']') (fun _ _ => Node.noConfusion) rfl rfl ?_ (by decide)⟩
      rw [List.getLast?_cons, getLast?_referenceText]
      rfl
  | footnoteReference =>
      refine ⟨_, rfl, .of_mark (x := ']') (fun _ _ => Node.noConfusion) rfl rfl ?_ (by decide)⟩
      simp [List.getLast?_cons]

/-- Nodes that end as they should make a line of such parts. -/
theorem exists_ends_line
    (each : ∀ n ∈ nodes, c.after n = c ∧ ∃ piece,
      writePiece c n = .ok piece ∧ ∀ last next, Ends c n (piece.textIn last next))
    : ∃ pieces,
        writePieces c nodes = .ok pieces
        ∧ ∀ last, List.Forall₂ (Ends c) nodes (partsFrom last pieces) := by
  induction nodes with
  | nil => exact ⟨[], rfl, fun _ => .nil⟩
  | cons n nodes ih =>
      obtain ⟨⟨same, piece, made, here⟩, later⟩ := List.forall_mem_cons.mp each
      obtain ⟨pieces, listed, behind⟩ := ih later
      refine ⟨piece :: pieces, ?_, fun last => .cons (here _ _) (behind _)⟩
      refine bind_eq_ok.mpr ⟨piece, made, bind_eq_ok.mpr ⟨pieces, ?_, rfl⟩⟩
      rwa [same]

theorem ends_ofContent (delimiter : Delimiter) (other : ∀ s m, n ≠ .text s m)
    (faint : isFaint n = isBare n) (bare : isBare n = true ↔ isRestBlank s = true) (last next : Option Char)
    : Ends c n ((Piece.ofContent delimiter s).textIn last next) := by
  cases blank : isRestBlank s with
  | true =>
      rw [ofContent_blank blank]
      exact .bare faint (bare.mpr blank) blank
  | false =>
      have marked : isBare n = false := by
        rw [← Bool.not_eq_true, bare, blank]
        exact Bool.false_ne_true
      exact .solid other (faint.trans marked) marked (solidEnd_ofContent delimiter blank last next)

theorem CellNode.exists_ends (node : CellNode n) (escapes : c.options.escape = true)
    : ∃ piece,
        writePiece c n = .ok piece ∧ ∀ last next, Ends c n (piece.textIn last next) := by
  have leaf : ∀ leaf m, CellNode (.inert leaf m) → ∃ piece,
      writePiece c (.inert leaf m) = .ok piece
      ∧ ∀ last next, Ends c (.inert leaf m) (piece.textIn last next) := by
    intro leaf m node
    obtain ⟨part, written, ends⟩ := exists_ends_leaf node c.options
    exact ⟨.plain part, bind_eq_ok.mpr ⟨part, written, rfl⟩, fun _ _ => ends⟩
  induction node with
  | text =>
      refine ⟨_, rfl, fun _ _ => ?_⟩
      rw [Piece.textIn, Context.text, if_pos escapes]
      exact .text
  | @math form s m =>
      obtain ⟨part, written, last⟩ := exists_ends_math (c := c) form s m
      exact ⟨_, written, fun _ _ => .of_mark (fun _ _ => Node.noConfusion) rfl rfl last (by decide)⟩
  | @code s =>
      exact ⟨_, rfl,
        fun _ _ => .of_mark (fun _ _ => Node.noConfusion) rfl rfl (getLast?_codeSpan s) (by decide)⟩
  | tag opens closes => exact leaf _ _ (.tag opens closes)
  | lineBreak => exact leaf _ _ .lineBreak
  | image => exact leaf _ _ .image
  | imageReference => exact leaf _ _ .imageReference
  | footnoteReference => exact leaf _ _ .footnoteReference
  | @span form cs m span inside ih =>
      obtain ⟨pieces, listed, ends⟩ :=
        exists_ends_line (fun n held => ⟨after_cellNode (inside n held) c, ih n held⟩)
      have bare : areBare cs = true ↔ isRestBlank (assemble pieces) = true := by
        rw [areBare_iff (ends none), ← assembleFrom_eq_flatten]
        rfl
      cases form with
      | emphasis | strong | strikethrough =>
          exact ⟨_, bind_eq_ok.mpr ⟨pieces, listed, rfl⟩,
            fun last next => ends_ofContent _ (fun _ _ => Node.noConfusion) rfl (by rwa [isBare]) last next⟩
      | link url title =>
          rw [writePiece]
          split
          · refine ⟨_, rfl,
              fun _ _ => .of_mark (x := '>') (fun _ _ => Node.noConfusion) rfl rfl ?_ (by decide)⟩
            simp [Piece.textIn, List.getLast?_cons]
          · refine ⟨_, bind_eq_ok.mpr ⟨pieces, listed, rfl⟩,
              fun _ _ => .of_mark (x := ')') (fun _ _ => Node.noConfusion) rfl rfl ?_ (by decide)⟩
            simp [Piece.textIn, List.getLast?_cons]
      | linkReference identifier label style =>
          refine ⟨_, bind_eq_ok.mpr ⟨pieces, listed, rfl⟩,
            fun _ _ => .of_mark (x := ']') (fun _ _ => Node.noConfusion) rfl rfl ?_ (by decide)⟩
          exact getLast?_referenceText ..
      | _ => cases span

end MixedScript.Markdown
