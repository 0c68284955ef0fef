import MixedScript.Proofs.Markdown.LineStart
import MixedScript.Proofs.Markdown.TopLine
import Mathlib.Data.List.Infix

/-! The first block of a written document. Of all that the reader finds between blocks, nothing but a
thematic break is written so that its first line is a rule; so what a document shows is read as front
matter only behind such a break. -/

namespace MixedScript.Markdown

variable {cs more : Chars} {c : Context} {n : Node} {piece : Piece}

-----------------------------------------------------------------------------------------
-- Texts
-----------------------------------------------------------------------------------------

theorem not_dashes_of_head {a : Char} (other : a ≠ '-') (rest : Chars)
    : ¬ ['-', '-'] <+: a :: rest := by
  simp [List.cons_prefix_cons, Ne.symm other]

theorem not_dashes_of_second {b : Char} (other : b ≠ '-') (a : Char) (rest : Chars)
    : ¬ ['-', '-'] <+: a :: b :: rest := by
  simp [List.cons_prefix_cons, Ne.symm other]

theorem dashes_of_append_line (h : ['-', '-'] <+: cs ++ '\n' :: more)
    : ['-', '-'] <+: cs := by
  match cs with
  | [] => simp [List.cons_prefix_cons] at h
  | [a] => simp [List.cons_prefix_cons] at h
  | a :: b :: rest => simpa [List.cons_prefix_cons] using h

theorem join_cons (separator cs : Chars) (rest : List Chars)
    : Chars.join separator (cs :: rest) = cs
      ∨ ∃ more, Chars.join separator (cs :: rest) = cs ++ (separator ++ more) := by
  cases rest with
  | nil => exact .inl rfl
  | cons next rest => exact .inr ⟨Chars.join separator (next :: rest), by simp [Chars.join]⟩

/-- The first line of a text, and others if there are any. -/
theorem lines_eq_cons (cs : Chars)
    : ∃ rest, Chars.lines cs = cs.takeWhile (· != '\n') :: rest := by
  unfold Chars.lines
  induction cs with
  | nil => exact ⟨[], rfl⟩
  | cons c cs ih =>
      obtain ⟨rest, split⟩ := ih
      by_cases here : c = '\n'
      · subst here
        exact ⟨Chars.splitAt '\n' cs, by simp [Chars.splitAt]⟩
      · refine ⟨rest, ?_⟩
        rw [Chars.splitAt, split]
        simp [here]

-----------------------------------------------------------------------------------------
-- Paragraphs
-----------------------------------------------------------------------------------------

/-- A rule would open a block. -/
theorem startsBlock_of_rule (rule : IsRule cs)
    : StartsBlock cs := by
  obtain ⟨blanks, rfl, blank⟩ := rule
  exact ⟨[], _, rfl, rfl, .underline (n := 2) (.inl rfl) (List.all_eq_true.mpr blank)⟩

/-- A line that is kept from opening a block is no rule. -/
theorem not_rule_escapeLineStart (line : Chars)
    : ¬ IsRule (escapeLineStart line) :=
  fun rule => (lineEscaped_escapeLineStart line).closes (startsBlock_of_rule rule)

/-- A paragraph that is kept from opening blocks does not start with a rule. -/
theorem not_startsWithRule_paragraph (plain : '\r' ∉ escapeLineStarts cs)
    : ¬ StartsWithRule (escapeLineStarts cs) := by
  obtain ⟨rest, split⟩ := lines_eq_cons cs
  have first : ∃ behind,
      escapeLineStarts cs = escapeLineStart (cs.takeWhile (· != '\n')) ++ behind
      ∧ (behind = [] ∨ behind.head? = some '\n') := by
    rw [escapeLineStarts, split, List.map_cons]
    rcases join_cons ['\n'] (escapeLineStart (cs.takeWhile (· != '\n'))) (rest.map escapeLineStart)
      with alone | ⟨more, joined⟩
    · exact ⟨[], by rw [alone, List.append_nil], .inl rfl⟩
    · exact ⟨'\n' :: more, joined, .inr rfl⟩
  obtain ⟨behind, whole, starts⟩ := first
  have single : ∀ c ∈ escapeLineStart (cs.takeWhile (· != '\n')), (c != '\n' && c != '\r') = true := by
    intro c held
    have noReturn : c ≠ '\r' := by
      rintro rfl
      exact plain (whole ▸ List.mem_append_left _ held)
    have noFeed : c ≠ '\n' := by
      rcases mem_escapeLineStart held with inside | rfl
      · simpa using List.mem_takeWhile_imp inside
      · decide
    simp [noReturn, noFeed]
  rw [StartsWithRule, whole, topLine_append starts, topLine, List.takeWhile_eq_self_iff.mpr single]
  exact not_rule_escapeLineStart _

-----------------------------------------------------------------------------------------
-- Blocks
-----------------------------------------------------------------------------------------

/-- A node that the reader puts between blocks. -/
def isBlock : Node → Bool
  | .group .blockQuote _ _ | .group (.list ..) _ _ | .group (.table ..) _ _ => true
  | .flow (.heading _) _ _ | .flow .paragraph _ _ => true
  | .math .block _ _ | .note .. => true
  | .inert (.codeBlock ..) _ | .inert .thematicBreak _ | .inert (.htmlBlock _) _ => true
  | .inert (.definition ..) _ => true
  | _ => false

theorem isBlock_noteNodes (labels : NoteLabels) (items : List Token)
    : ∀ n ∈ noteNodes labels items, isBlock n = true := by
  induction items with
  | nil => simp [noteNodes]
  | cons item items ih =>
      cases item <;> simpa [noteNodes, isBlock] using ih

theorem isBlock_blockNode (labels : NoteLabels) (t : Token)
    : ∀ n ∈ blockNode labels t, isBlock n = true := by
  cases t with
  | leaf type raw a => cases type <;> simp [blockNode, isBlock, codeBlockNode, tableNode]
  | branch type ts a =>
      cases type <;> simp [blockNode, isBlock, codeBlockNode, tableNode]
      exact isBlock_noteNodes labels ts

theorem isBlock_blockNodes (labels : NoteLabels) (ts : List Token)
    : ∀ n ∈ blockNodes labels ts, isBlock n = true := by
  induction ts with
  | nil => simp [blockNodes]
  | cons t ts ih =>
      intro n held
      rw [blockNodes] at held
      rcases List.mem_append.mp held with held | held
      · exact isBlock_blockNode labels t n held
      · exact ih n held

/-- The reader finds nothing else between blocks. -/
theorem isBlock_blocksOf (options : ReaderOptions) (source : Chars)
    : ∀ n ∈ blocksOf options source, isBlock n = true := by
  intro n held
  rcases List.mem_append.mp held with held | held
  · exact isBlock_blockNodes _ _ n held
  · obtain ⟨entry, -, rfl⟩ := List.mem_map.mp held
    rfl

-----------------------------------------------------------------------------------------
-- Lists
-----------------------------------------------------------------------------------------

/-- Two characters that are not both hyphens. -/
def Marks (marker : Chars) : Prop :=
  ∃ a b rest, marker = a :: b :: rest ∧ (a ≠ '-' ∨ b ≠ '-')

theorem Marks.not_dashes (h : Marks cs) (more : Chars)
    : ¬ ['-', '-'] <+: cs ++ more := by
  obtain ⟨a, b, rest, rfl, first | second⟩ := h
  · exact not_dashes_of_head first _
  · exact not_dashes_of_second second a _

theorem marks_bulletMarker (c : Context) (source : Option Chars)
    : Marks (c.bulletMarker source) := by
  unfold Context.bulletMarker
  split
  · exact ⟨_, ' ', [], rfl, .inr (by decide)⟩
  · exact ⟨_, ' ', [], rfl, .inr (by decide)⟩

theorem ofNat_digit {number : Nat} {x : Char} (h : x ∈ Chars.ofNat number)
    : x ≠ '-' := by
  rintro rfl
  have := Nat.isDigit_of_mem_toDigits (by decide) (by decide) h
  exact absurd this (by decide)

theorem marks_numberMarker (number : Int) (bullet : Option Chars)
    : Marks (numberMarker number bullet) := by
  have written : Chars.ofNat number.natAbs ≠ [] := Nat.toDigits_ne_nil
  obtain ⟨digit, digits, made⟩ := List.exists_cons_of_ne_nil written
  have other : digit ≠ '-' := ofNat_digit (made ▸ List.mem_cons_self)
  obtain ⟨mark, delimited⟩ : ∃ mark, (if bullet == some [')'] then [')'] else ['.']) = [mark] := by
    split
    · exact ⟨')', rfl⟩
    · exact ⟨'.', rfl⟩
  unfold numberMarker Chars.ofInt
  rw [made, delimited]
  split
  · exact ⟨'-', digit, _, rfl, .inr other⟩
  · cases digits with
    | nil => exact ⟨digit, mark, _, rfl, .inl other⟩
    | cons next digits => exact ⟨digit, next, _, rfl, .inl other⟩

theorem not_dashes_itemText {marker : Chars} (h : Marks marker) (indent : Chars)
    (task : Option TaskState) (content : Chars)
    : ¬ ['-', '-'] <+: itemText marker indent task content := by
  simp only [itemText]
  split
  · intro dashes
    refine h.not_dashes (checkbox task) (dashes.trans ?_)
    rw [Chars.stripEnd, Chars.dropEndWhile_eq_rdropWhile]
    exact List.rdropWhile_prefix ..
  · rw [List.append_assoc]
    exact h.not_dashes _

/-- The first item of a list starts with a marker. -/
theorem not_dashes_writeItems {ordered tight : Bool} {number : Int} {bullet : Option Chars}
    {nodes : List Node} {item : Chars} {items : List Chars}
    (h : writeItems c ordered number tight bullet nodes = .ok (item :: items))
    : ¬ ['-', '-'] <+: item := by
  unfold writeItems at h
  split at h
  · simp at h
  · obtain ⟨body, -, h⟩ := bind_eq_ok.mp h
    obtain ⟨later, -, h⟩ := bind_eq_ok.mp h
    obtain ⟨rfl, -⟩ := List.cons.inj (Except.ok.inj h)
    refine not_dashes_itemText ?_ _ _ _
    split
    · exact marks_numberMarker number bullet
    · exact marks_bulletMarker c bullet
  · cases h

-----------------------------------------------------------------------------------------
-- Written blocks
-----------------------------------------------------------------------------------------

theorem assemble_plain (cs : Chars)
    : assemble [.plain cs] = cs := by
  simp [assemble, assembleFrom]

/-- A block that may be written so that it starts with a rule: a thematic break; a paragraph that is not
escaped, or that holds a carriage return, behind which nothing is escaped; raw markup that starts with a
hyphen itself. -/
inductive Unshielded (options : WriterOptions) : Node → Chars → Prop
  | thematicBreak {m cs}
    : Unshielded options (.inert .thematicBreak m) cs
  | unescaped {nodes m cs} (bare : options.escape = false)
    : Unshielded options (.flow .paragraph nodes m) cs
  | carriageReturn {nodes m cs} (held : '\r' ∈ cs)
    : Unshielded options (.flow .paragraph nodes m) cs
  | markup {content m cs} (hyphen : content.head? = some '-')
    : Unshielded options (.inert (.htmlBlock content) m) cs

theorem not_dashes_join {separator : Chars} {parts : List Chars}
    (feeds : ∃ more, separator = '\n' :: more)
    (first : ∀ part later, parts = part :: later → ¬ ['-', '-'] <+: part)
    : ¬ ['-', '-'] <+: Chars.join separator parts := by
  obtain ⟨feed, rfl⟩ := feeds
  cases parts with
  | nil => simp [Chars.join]
  | cons part later =>
      have apart := first part later rfl
      rcases join_cons ('\n' :: feed) part later with alone | ⟨more, joined⟩
      · rwa [alone]
      · rw [joined]
        exact fun dashes => apart (dashes_of_append_line dashes)

theorem not_dashes_quoteLines (cs : Chars)
    : ¬ ['-', '-'] <+: quoteLines cs := by
  obtain ⟨rest, split⟩ := lines_eq_cons cs
  refine not_dashes_join ⟨[], rfl⟩ fun part later parts => ?_
  rw [split, List.map_cons] at parts
  obtain ⟨rfl, -⟩ := List.cons.inj parts
  split <;> exact not_dashes_of_head (by decide) _

theorem not_dashes_tableLines (columns : Nat) (alignments : List (Option Alignment))
    (rows : List (List Chars))
    : ¬ ['-', '-'] <+: Chars.join ['\n'] (tableLines columns alignments rows) := by
  refine not_dashes_join ⟨[], rfl⟩ fun part later parts => ?_
  cases rows with
  | nil => cases parts
  | cons row rows =>
      obtain ⟨rfl, -⟩ := List.cons.inj parts
      exact not_dashes_of_head (by decide) _

theorem not_dashes_indentedCode (cs : Chars)
    : ¬ ['-', '-'] <+: indentedCode cs := by
  obtain ⟨rest, split⟩ := lines_eq_cons (Chars.dropEndWhile (· == '\n') cs)
  refine not_dashes_join ⟨[], rfl⟩ fun part later parts => ?_
  rw [split, List.map_cons] at parts
  obtain ⟨rfl, -⟩ := List.cons.inj parts
  split
  · simp
  · exact not_dashes_of_head (by decide) _

theorem not_dashes_fencedCode (mark : FenceMark) (least : Nat) (info content : Chars)
    : ¬ ['-', '-'] <+: fencedCode mark least info content := by
  have fence : ∃ rest, fencedCode mark least info content = mark.char :: rest := by
    have long : max least (Chars.longestRun mark.char content + 1) ≠ 0 := by omega
    obtain ⟨count, counted⟩ := Nat.exists_eq_succ_of_ne_zero long
    simp only [fencedCode, fenceFor, counted, List.replicate_succ]
    exact ⟨_, rfl⟩
  obtain ⟨rest, shape⟩ := fence
  rw [shape]
  exact not_dashes_of_head (by cases mark <;> decide) rest

theorem not_dashes_heading (level : HeadingLevel) (cs : Chars)
    : ¬ ['-', '-'] <+: if cs.isEmpty then List.replicate level.1 '#'
        else List.replicate level.1 '#' ++ ' ' :: cs := by
  obtain ⟨count, counted⟩ := Nat.exists_eq_succ_of_ne_zero (Nat.one_le_iff_ne_zero.mp level.2.1)
  rw [counted, List.replicate_succ]
  split <;> exact not_dashes_of_head (by decide) _

/-- No other block is written so that it starts with a rule. -/
theorem unshielded_of_rule (block : isBlock n = true) (written : writePiece c n = .ok piece)
    (rule : StartsWithRule (assemble [piece]))
    : Unshielded c.options n (assemble [piece]) := by
  cases n with
  | group form nodes m =>
      cases form with
      | document | tableRow => cases block
      | blockQuote =>
          obtain ⟨body, -, made⟩ := bind_eq_ok.mp written
          obtain rfl := Except.ok.inj made
          rw [assemble_plain] at rule
          exact absurd rule.dashes (not_dashes_quoteLines _)
      | list ordered start tight bullet =>
          obtain ⟨items, listed, made⟩ := bind_eq_ok.mp written
          obtain rfl := Except.ok.inj made
          rw [assemble_plain] at rule
          refine absurd rule.dashes (not_dashes_join ?_ ?_)
          · cases tight
            · exact ⟨['\n'], rfl⟩
            · exact ⟨[], rfl⟩
          · rintro item later rfl
            exact not_dashes_writeItems listed
      | table headed alignments =>
          obtain ⟨rows, -, made⟩ := bind_eq_ok.mp written
          obtain rfl := Except.ok.inj made
          rw [assemble_plain] at rule
          exact absurd rule.dashes (not_dashes_tableLines _ _ _)
  | flow form nodes m =>
      cases form with
      | heading level =>
          obtain ⟨pieces, -, made⟩ := bind_eq_ok.mp written
          obtain rfl := Except.ok.inj made
          rw [assemble_plain] at rule
          exact absurd rule.dashes (not_dashes_heading level _)
      | paragraph =>
          cases escapes : c.options.escape with
          | false => exact .unescaped escapes
          | true =>
              obtain ⟨pieces, -, made⟩ := bind_eq_ok.mp written
              obtain rfl := Except.ok.inj made
              rw [assemble_plain] at rule ⊢
              simp only [Context.paragraph, escapes, if_true] at rule ⊢
              by_contra other
              exact not_startsWithRule_paragraph (fun held => other (.carriageReturn held)) rule
      | listItem | tableCell | emphasis | strong | strikethrough | link | linkReference => cases block
  | text | code => cases block
  | math form cs m =>
      cases form with
      | inline => cases block
      | block =>
          obtain rfl := Except.ok.inj written
          rw [assemble_plain] at rule
          refine absurd rule.dashes ?_
          split <;> exact not_dashes_of_head (by decide) _
  | note identifier nodes m =>
      obtain ⟨body, -, made⟩ := bind_eq_ok.mp written
      obtain rfl := Except.ok.inj made
      rw [assemble_plain] at rule
      refine absurd rule.dashes ?_
      simp only [noteText]
      split <;> exact not_dashes_of_head (by decide) _
  | inert leaf m =>
      obtain ⟨cs, made, wrapped⟩ := bind_eq_ok.mp written
      obtain rfl := Except.ok.inj wrapped
      rw [assemble_plain] at rule ⊢
      cases leaf with
      | thematicBreak => exact .thematicBreak
      | htmlInline | lineBreak | image | imageReference | footnoteReference | unset => cases block
      | codeBlock content language =>
          obtain rfl := Except.ok.inj made
          refine absurd rule.dashes ?_
          split
          · exact not_dashes_indentedCode content
          · exact not_dashes_fencedCode _ _ _ _
      | htmlBlock content =>
          obtain rfl := Except.ok.inj made
          have dashes := rule.dashes
          rw [Chars.dropEndWhile_eq_rdropWhile] at dashes
          obtain ⟨rest, rfl⟩ := dashes.trans (List.rdropWhile_prefix ..)
          exact .markup rfl
      | definition identifier url title label =>
          obtain rfl := Except.ok.inj made
          exact absurd rule.dashes (not_dashes_of_head (by decide) _)

-----------------------------------------------------------------------------------------
-- Documents
-----------------------------------------------------------------------------------------

variable {nodes : List Node} {text : Chars}

/-- The first block that anything is written for, and what is written. -/
def firstWritten? (c : Context) : List Node → Option (Node × Chars)
  | [] => none
  | n :: rest =>
    match isBlankText n, writePiece c n with
    | true, _ => firstWritten? c rest
    | false, .error _ => none
    | false, .ok piece =>
      if (assemble [piece]).isEmpty then firstWritten? c rest else some (n, assemble [piece])

theorem firstWritten?_ok (h : firstWritten? c nodes = some (n, text))
    : ∃ piece, writePiece c n = .ok piece ∧ text = assemble [piece] := by
  induction nodes with
  | nil => cases h
  | cons first rest ih =>
      unfold firstWritten? at h
      split at h
      · exact ih h
      · cases h
      · next piece _ written =>
          split at h
          · exact ih h
          · obtain ⟨rfl, rfl⟩ := Prod.mk.inj (Option.some.inj h)
            exact ⟨piece, written, rfl⟩

/-- Outside of tables blocks are all written alike. -/
theorem after_of_outside (outside : c.inTable = false) (n : Node)
    : c.after n = c := by
  simp [Context.after, outside]

/-- What is written for blocks starts with the first of them that anything is written for. -/
theorem writeBlocks_first (outside : c.inTable = false) {blocks : List BlockText}
    (h : writeBlocks c nodes = .ok blocks)
    : (firstWritten? c nodes).map Prod.snd = blocks.head?.map BlockText.text := by
  induction nodes generalizing blocks with
  | nil =>
      rw [writeBlocks] at h
      obtain rfl := Except.ok.inj h
      rfl
  | cons n rest ih =>
      rw [writeBlocks] at h
      unfold firstWritten?
      cases blank : isBlankText n with
      | true =>
          simp only [blank, if_true] at h ⊢
          exact ih h
      | false =>
          simp only [blank, Bool.false_eq_true, if_false] at h
          obtain ⟨piece, written, h⟩ := bind_eq_ok.mp h
          obtain ⟨later, behind, h⟩ := bind_eq_ok.mp h
          rw [after_of_outside outside] at behind
          simp only [written]
          split at h
          · next empty =>
              obtain rfl := Except.ok.inj h
              rw [if_pos empty]
              exact ih behind
          · next filled =>
              obtain rfl := Except.ok.inj h
              rw [if_neg filled]
              rfl

theorem joinBlocks_cons (b : BlockText) (blocks : List BlockText)
    : ∃ behind,
        joinBlocks ['\n', '\n'] (b :: blocks) = b.text ++ behind
        ∧ (behind = [] ∨ behind.head? = some '\n') := by
  cases blocks with
  | nil => exact ⟨[], (List.append_nil _).symm, .inl rfl⟩
  | cons next blocks =>
      refine ⟨_, by rw [joinBlocks, List.append_assoc], .inr ?_⟩
      split <;> rfl

/-- A document without metadata is written as its blocks. -/
theorem write_document {options : WriterOptions}
    (h : write options (.group .document nodes []) = .ok text)
    : ∃ blocks,
        writeBlocks (.root options) nodes = .ok blocks
        ∧ text = cleanUp (joinBlocks ['\n', '\n'] blocks) := by
  obtain ⟨body, written, h⟩ := bind_eq_ok.mp h
  obtain ⟨piece, written, assembled⟩ := bind_eq_ok.mp written
  obtain ⟨blocks, listed, made⟩ := bind_eq_ok.mp written
  obtain rfl := Except.ok.inj made
  obtain rfl := Except.ok.inj assembled
  obtain rfl := Except.ok.inj h
  refine ⟨blocks, listed, ?_⟩
  have front : (if options.frontMatter then frontMatter [] else []) = [] := by
    split <;> rfl
  rw [assemble_plain, Context.root, front]
  cases joinBlocks ['\n', '\n'] blocks <;> rfl

/-- A document whose text holds front matter starts with a rule. -/
theorem rule_of_written {options : WriterOptions} {f : FrontMatter}
    (written : write options (.group .document nodes []) = .ok text)
    (h : FrontMatter.split? text = some f)
    : ∃ n cs, firstWritten? (.root options) nodes = some (n, cs) ∧ StartsWithRule cs := by
  obtain ⟨blocks, listed, rfl⟩ := write_document written
  have rule := startsWithRule_of_split? h
  have first := writeBlocks_first (c := .root options) rfl listed
  cases blocks with
  | nil =>
      obtain ⟨_, shape, -⟩ := rule
      cases shape
  | cons b blocks =>
      obtain ⟨⟨n, cs⟩, found, same⟩ := Option.map_eq_some_iff.mp first
      obtain ⟨behind, joined, starts⟩ := joinBlocks_cons b blocks
      have same : cs = b.text := same
      subst same
      rw [StartsWithRule, joined, topLine_append starts] at rule
      exact ⟨n, b.text, found, rule⟩

theorem firstWritten?_mem {cs : Chars} (h : firstWritten? c nodes = some (n, cs))
    : n ∈ nodes := by
  induction nodes with
  | nil => cases h
  | cons first rest ih =>
      unfold firstWritten? at h
      split at h
      · exact List.mem_cons_of_mem _ (ih h)
      · cases h
      · split at h
        · exact List.mem_cons_of_mem _ (ih h)
        · obtain ⟨rfl, -⟩ := Prod.mk.inj (Option.some.inj h)
          exact List.mem_cons_self

end MixedScript.Markdown

namespace MixedScript

open Markdown

/-- What is written for blocks without metadata is read without metadata, unless the first text that is
written starts with a rule and a document would carry what stands between that and a later rule. Of the
blocks that the reader finds, only unshielded ones start so. -/
theorem written_body_read_bare_iff {options : WriterOptions} {reader : ReaderOptions}
    {nodes : List Node} {text : Chars}
    (written : write options (.group .document nodes []) = .ok text)
    (blocks : ∀ n ∈ nodes, isBlock n = true)
    : let led := ∃ n cs, firstWritten? (.root options) nodes = some (n, cs) ∧ StartsWithRule cs
      ((∃ blocks, (readDocument reader text).result = .ok (.group .document blocks []))
        ↔ ¬ (led ∧ ∃ f, frontMatterOf? reader text = some f ∧ f.Carried))
      ∧ ∀ n cs, firstWritten? (.root options) nodes = some (n, cs) → StartsWithRule cs →
          Unshielded options n cs := by
  intro led
  constructor
  · rw [readDocument_bare_iff]
    constructor
    · rintro bare ⟨-, f, found, carried⟩
      exact bare f found carried
    · intro apart f found carried
      exact apart ⟨rule_of_written written (split?_of_frontMatterOf? found), f, found, carried⟩
  · intro n cs first rule
    obtain ⟨piece, made, rfl⟩ := firstWritten?_ok first
    exact unshielded_of_rule (blocks n (firstWritten?_mem first)) made rule

/-- Two thematic breaks around plain text stay what they are. -/
theorem breaks_around_text_read_bare
    : ∃ text,
        write {} (.group .document (blocksOf {} "***\n\na\n\n***\n".toList) []) = .ok text
        ∧ ∃ blocks, (readDocument {} text).result = .ok (.group .document blocks []) := by
  let nodes := blocksOf {} "***\n\na\n\n***\n".toList
  let text := "---\n\na\n\n---\n".toList
  have written : write {} (.group .document nodes []) = .ok text := ok_of_toOption (by decide +kernel)
  have found : frontMatterOf? {} text = some ⟨text, "\na\n\n".toList, []⟩ := by decide +kernel
  have loaded : Yaml.load "\na\n\n".toList = .ok (.str "a") := ok_of_toOption (by decide +kernel)
  refine ⟨text, written, (written_body_read_bare_iff written (isBlock_blocksOf {} _)).1.mpr ?_⟩
  rintro ⟨-, f, here, carried⟩
  obtain rfl := Option.some.inj (found.symm.trans here)
  simp only [FrontMatter.Carried, loaded] at carried

/-- Two thematic breaks around text in the form of a mapping are written as front matter. -/
theorem breaks_around_mapping_read_as_front_matter
    : ¬ ∀ (source : Chars) (nodes : List Node) (text : Chars),
        (readDocument {} source).result = .ok (.group .document nodes []) →
        write {} (.group .document nodes []) = .ok text →
        ∃ blocks, (readDocument {} text).result = .ok (.group .document blocks []) := by
  intro bare
  let source := "***\n\na: b\n\n***\n".toList
  let text := "---\n\na: b\n\n---\n".toList
  have noFront : frontMatterOf? {} source = none := by decide +kernel
  have read := readDocument_of_preamble (readPreamble_none noFront)
  have written : write {} (.group .document (blocksOf {} source) []) = .ok text :=
    ok_of_toOption (by decide +kernel)
  have found : frontMatterOf? {} text = some ⟨text, "\na: b\n\n".toList, []⟩ := by decide +kernel
  have loaded : Yaml.load "\na: b\n\n".toList = .ok (.map [(.str "a", .str "b")]) :=
    ok_of_toOption (by decide +kernel)
  refine readDocument_bare_iff.mp (bare source _ text read written) _ found ?_
  simp only [FrontMatter.Carried, loaded]

end MixedScript
