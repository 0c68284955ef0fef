import MixedScript.Markdown.Writer.Escape
import MixedScript.Proofs.Text.Chars
import MixedScript.Proofs.Text.Lines
import Mathlib.Tactic.Tauto

/-! What a line may start with. A line that starts with the mark of a list item, a quotation, a fence or an
underline would open a block; one backslash keeps it from that, and no other line is changed. -/

namespace MixedScript.Markdown

-----------------------------------------------------------------------------------------
-- Marks of blocks
-----------------------------------------------------------------------------------------

/-- What may follow a mark: the end of the line, a space or a tab. -/
def Apart (rest : Chars) : Prop :=
  ∀ c, rest.head? = some c → Text.isInlineBlank c = true

/-- A text that starts with the mark of a block. -/
inductive Marked : Chars → Prop
  | number {ds d rest} (filled : ds ≠ []) (short : ds.length ≤ 9)
    (decimal : ∀ c ∈ ds, Text.isDecimalDigit c = true) (delimiter : d = '.' ∨ d = ')')
    (apart : Apart rest)
    : Marked (ds ++ d :: rest)
  | bullet {b rest} (bullet : b = '-' ∨ b = '+') (apart : Apart rest) : Marked (b :: rest)
  | quote (rest) : Marked ('>' :: rest)
  | fence (rest) : Marked ('~' :: '~' :: '~' :: rest)
  | underline {c n blanks} (mark : c = '-' ∨ c = '=') (blank : isRestBlank blanks = true)
    : Marked (c :: (List.replicate n c ++ blanks))

/-- A line that starts with the mark of a block, indented or not. -/
def StartsBlock (line : Chars) : Prop :=
  ∃ indent body, line = indent ++ body ∧ isRestBlank indent = true ∧ Marked body

variable {c x : Char} {cs ds rest indent body line : Chars}

theorem apart_iff
    : Apart rest ↔ (rest.head?.map Text.isInlineBlank).getD true = true := by
  cases rest <;> simp [Apart]

theorem listNumber?_eq_some
    : listNumber? cs = some ds
      ↔ ∃ d rest,
          cs = ds ++ d :: rest ∧ ds ≠ [] ∧ ds.length ≤ 9
          ∧ (∀ c ∈ ds, Text.isDecimalDigit c = true) ∧ (d = '.' ∨ d = ')') ∧ Apart rest := by
  constructor
  · intro h
    simp only [listNumber?] at h
    split at h
    · next d rest behind =>
        split at h
        · next number =>
            obtain rfl := Option.some.inj h
            simp only [Bool.and_eq_true, Bool.not_eq_true', List.isEmpty_eq_false_iff,
              decide_eq_true_eq, Bool.or_eq_true, beq_iff_eq] at number
            obtain ⟨⟨⟨filled, short⟩, delimiter⟩, apart⟩ := number
            refine ⟨d, rest, ?_, filled, short, fun c held => List.mem_takeWhile_imp held, delimiter,
              apart_iff.mpr apart⟩
            rw [← behind]
            exact (List.prefix_iff_eq_append.mp (List.takeWhile_prefix _)).symm
        · cases h
    · cases h
  · rintro ⟨d, rest, rfl, filled, short, decimal, delimiter, apart⟩
    have noDigit : Text.isDecimalDigit d = false := by
      rcases delimiter with rfl | rfl <;> decide
    have taken : (ds ++ d :: rest).takeWhile Text.isDecimalDigit = ds := by
      rw [List.takeWhile_append_of_pos decimal]
      simp [noDigit]
    simp only [listNumber?, taken, List.drop_left]
    rw [if_pos]
    simpa [filled, short, apart_iff] using ⟨delimiter, apart_iff.mp apart⟩

theorem isRunLine_iff (solid : Text.isInlineBlank c = false)
    : isRunLine c cs = true
      ↔ ∃ n blanks, cs = c :: (List.replicate n c ++ blanks) ∧ isRestBlank blanks = true := by
  constructor
  · intro h
    obtain ⟨first, blank⟩ := Bool.and_eq_true_iff.mp h
    obtain ⟨rest, rfl⟩ := List.head?_eq_some_iff.mp (beq_iff_eq.mp first)
    have run : ∀ x ∈ rest.takeWhile (· == c), x = c :=
      fun x held => beq_iff_eq.mp (List.mem_takeWhile_imp (p := (· == c)) held)
    refine ⟨(rest.takeWhile (· == c)).length, rest.dropWhile (· == c), ?_, ?_⟩
    · rw [← List.eq_replicate_of_mem run, List.takeWhile_append_dropWhile]
    · simpa using blank
  · rintro ⟨n, blanks, rfl, blank⟩
    have ended : blanks.dropWhile (· == c) = blanks := by
      cases blanks with
      | nil => rfl
      | cons b blanks =>
          have other : b ≠ c := by
            rintro rfl
            simp [isRestBlank, solid] at blank
          simp [other]
    simp [isRunLine, ended, blank]

/-- The marks of blocks are just what the writer looks for. -/
theorem marked_iff
    : Marked cs ↔ (listNumber? cs).isSome = true ∨ opensBlock cs = true := by
  constructor
  · intro marked
    cases marked with
    | number filled short decimal delimiter apart =>
        have found := listNumber?_eq_some.mpr
          ⟨_, _, rfl, filled, short, decimal, delimiter, apart⟩
        exact .inl (by rw [found]; rfl)
    | bullet bullet apart =>
        rcases bullet with rfl | rfl <;> exact .inr (by simp [opensBlock, apart_iff.mp apart])
    | quote => exact .inr (by simp [opensBlock])
    | fence => exact .inr (by simp [opensBlock, Chars.after?])
    | @underline m n blanks mark blank =>
        have solid : Text.isInlineBlank m = false := by rcases mark with rfl | rfl <;> decide
        have run := (isRunLine_iff solid).mpr ⟨n, blanks, rfl, blank⟩
        rcases mark with rfl | rfl <;> exact .inr (by simp [opensBlock, run])
  · rintro (number | opens)
    · obtain ⟨ds, found⟩ := Option.isSome_iff_exists.mp number
      obtain ⟨d, rest, rfl, filled, short, decimal, delimiter, apart⟩ := listNumber?_eq_some.mp found
      exact .number filled short decimal delimiter apart
    · cases cs with
      | nil => cases opens
      | cons c rest =>
          simp only [opensBlock, Bool.or_eq_true, Bool.and_eq_true, beq_iff_eq] at opens
          rcases opens with (((⟨bullet, apart⟩ | dashes) | rfl) | tildes) | equals
          · exact .bullet bullet (apart_iff.mpr apart)
          · obtain ⟨n, blanks, shape, blank⟩ := (isRunLine_iff (by decide)).mp dashes
            rw [shape]
            exact .underline (.inl rfl) blank
          · exact .quote rest
          · obtain ⟨rest, found⟩ := Option.isSome_iff_exists.mp tildes
            rw [Chars.after?_eq_some found]
            exact .fence rest
          · obtain ⟨n, blanks, shape, blank⟩ := (isRunLine_iff (by decide)).mp equals
            rw [shape]
            exact .underline (.inr rfl) blank

theorem ne_of_isDecimalDigit (digit : Text.isDecimalDigit c = true) (x : Char)
    (other : Text.isDecimalDigit x = false)
    : c ≠ x := by
  rintro rfl
  rw [other] at digit
  cases digit

theorem Marked.starts (marked : Marked cs)
    : ∃ first rest, cs = first :: rest ∧ Text.isInlineBlank first = false := by
  cases marked with
  | @number ds d rest filled _ decimal _ _ =>
      obtain ⟨first, ds, rfl⟩ := List.exists_cons_of_ne_nil filled
      refine ⟨first, ds ++ d :: rest, rfl, ?_⟩
      have digit := decimal first List.mem_cons_self
      simp [Text.isInlineBlank, ne_of_isDecimalDigit digit ' ' (by decide),
        ne_of_isDecimalDigit digit '\t' (by decide)]
  | bullet bullet => rcases bullet with rfl | rfl <;> exact ⟨_, _, rfl, by decide⟩
  | quote => exact ⟨_, _, rfl, by decide⟩
  | fence => exact ⟨_, _, rfl, by decide⟩
  | underline mark => rcases mark with rfl | rfl <;> exact ⟨_, _, rfl, by decide⟩

theorem takeWhile_indent (blank : isRestBlank indent = true) (solid : Text.isInlineBlank x = false)
    (rest : Chars)
    : (indent ++ x :: rest).takeWhile Text.isInlineBlank = indent := by
  rw [List.takeWhile_append_of_pos (List.all_eq_true.mp blank)]
  simp [solid]

/-- The mark of a block stands right behind the indentation. -/
theorem startsBlock_iff
    : StartsBlock line
      ↔ Marked (line.drop (line.takeWhile Text.isInlineBlank).length) := by
  constructor
  · rintro ⟨indent, body, rfl, blank, marked⟩
    obtain ⟨first, rest, rfl, solid⟩ := marked.starts
    rw [takeWhile_indent blank solid, List.drop_left]
    exact marked
  · intro marked
    refine ⟨_, _, (List.prefix_iff_eq_append.mp (List.takeWhile_prefix _)).symm, ?_, marked⟩
    exact List.all_eq_true.mpr (fun c held => List.mem_takeWhile_imp held)

theorem startsBlock_append (blank : isRestBlank indent = true) (solid : Text.isInlineBlank x = false)
    : StartsBlock (indent ++ x :: rest) ↔ Marked (x :: rest) := by
  rw [startsBlock_iff, takeWhile_indent blank solid, List.drop_left]

-----------------------------------------------------------------------------------------
-- Escaped lines
-----------------------------------------------------------------------------------------

/-- How a line is escaped. It stays if it starts no block; otherwise one backslash goes in front of the
mark, or in front of the delimiter behind the number. -/
inductive LineEscaped : Chars → Chars → Prop
  | closed {line : Chars} (closed : ¬ StartsBlock line) : LineEscaped line line
  | number {indent ds rest : Chars} {d : Char} (blank : isRestBlank indent = true)
    (filled : ds ≠ []) (decimal : ∀ c ∈ ds, Text.isDecimalDigit c = true)
    (delimiter : d = '.' ∨ d = ')')
    : LineEscaped (indent ++ (ds ++ d :: rest)) (indent ++ (ds ++ '\\' :: d :: rest))
  | mark {indent rest : Chars} {m : Char} (blank : isRestBlank indent = true)
    (mark : m ∈ ['-', '+', '>', '~', '='])
    : LineEscaped (indent ++ m :: rest) (indent ++ '\\' :: m :: rest)

theorem mark_of_opensBlock (opens : opensBlock (x :: rest) = true)
    : x ∈ ['-', '+', '>', '~', '='] := by
  by_contra other
  simp only [List.mem_cons, List.not_mem_nil, or_false, not_or] at other
  obtain ⟨hyphen, plus, angle, tilde, equals⟩ := other
  simp [opensBlock, isRunLine, Chars.after?, hyphen, plus, angle, Ne.symm tilde, equals] at opens

theorem lineEscaped_escapeLineStart (line : Chars)
    : LineEscaped line (escapeLineStart line) := by
  have split : line.takeWhile Text.isInlineBlank
      ++ line.drop (line.takeWhile Text.isInlineBlank).length = line :=
    (List.prefix_iff_eq_append.mp (List.takeWhile_prefix _))
  have blank : isRestBlank (line.takeWhile Text.isInlineBlank) = true :=
    List.all_eq_true.mpr (fun c held => List.mem_takeWhile_imp held)
  have starts := @startsBlock_iff line
  simp only [escapeLineStart]
  generalize line.takeWhile Text.isInlineBlank = indent at *
  generalize line.drop indent.length = body at *
  subst split
  rw [marked_iff] at starts
  split
  · next ds number =>
      obtain ⟨d, rest, rfl, filled, -, decimal, delimiter, -⟩ := listNumber?_eq_some.mp number
      rw [List.drop_left, List.append_assoc]
      exact .number blank filled decimal delimiter
  · next none =>
      split
      · next opens =>
          cases body with
          | nil => cases opens
          | cons m rest => exact .mark blank (mark_of_opensBlock opens)
      · next closed =>
          refine .closed (fun block => ?_)
          rcases starts.mp block with number | opens
          · rw [none] at number
            cases number
          · exact closed opens

/-- An escaped line starts no block. -/
theorem LineEscaped.closes {escaped : Chars} (h : LineEscaped line escaped)
    : ¬ StartsBlock escaped := by
  cases h with
  | closed closed => exact closed
  | @number indent ds rest d blank filled decimal delimiter =>
      obtain ⟨x, ds, rfl⟩ := List.exists_cons_of_ne_nil filled
      have digit := ne_of_isDecimalDigit (decimal x List.mem_cons_self)
      have solid : Text.isInlineBlank x = false := by
        simp [Text.isInlineBlank, digit ' ' (by decide), digit '\t' (by decide)]
      have taken : (x :: (ds ++ '\\' :: d :: rest)).takeWhile Text.isDecimalDigit = x :: ds := by
        rw [← List.cons_append, List.takeWhile_append_of_pos decimal]
        simp [show Text.isDecimalDigit '\\' = false by decide]
      rw [List.cons_append, startsBlock_append blank solid, marked_iff]
      rintro (number | opens)
      · simp [listNumber?, taken] at number
      · have mark := mark_of_opensBlock opens
        simp [digit '-' (by decide), digit '+' (by decide), digit '>' (by decide),
          digit '~' (by decide), digit '=' (by decide)] at mark
  | mark blank =>
      rw [startsBlock_append blank (by decide), marked_iff]
      rintro (number | opens)
      · simp [listNumber?, show Text.isDecimalDigit '\\' = false by decide] at number
      · exact absurd (mark_of_opensBlock opens) (by decide)

theorem escapeLineStart_of_closed (closed : ¬ StartsBlock line)
    : escapeLineStart line = line := by
  rw [startsBlock_iff, marked_iff, not_or] at closed
  simp [escapeLineStart, Option.not_isSome_iff_eq_none.mp closed.1, closed.2]

theorem mem_escapeLineStart (held : x ∈ escapeLineStart line)
    : x ∈ line ∨ x = '\\' := by
  have escaped := lineEscaped_escapeLineStart line
  generalize escapeLineStart line = result at *
  cases escaped with
  | closed => exact .inl held
  | number | mark =>
      simp only [List.mem_append, List.mem_cons] at held ⊢
      tauto

-----------------------------------------------------------------------------------------
-- Escaped texts
-----------------------------------------------------------------------------------------

variable {t : Chars}

theorem lines_escapeLineStarts (t : Chars)
    : Chars.lines (escapeLineStarts t) = (Chars.lines t).map escapeLineStart := by
  refine Chars.lines_join ?_ (by simpa using Chars.lines_ne_nil t)
  intro escaped held feed
  obtain ⟨line, inside, rfl⟩ := List.mem_map.mp held
  rcases mem_escapeLineStart feed with feed | same
  · exact Chars.not_mem_of_mem_splitAt inside feed
  · cases same

/-- No line of an escaped text starts a block. -/
theorem not_startsBlock_of_mem (held : line ∈ Chars.lines (escapeLineStarts t))
    : ¬ StartsBlock line := by
  rw [lines_escapeLineStarts] at held
  obtain ⟨source, -, rfl⟩ := List.mem_map.mp held
  exact (lineEscaped_escapeLineStart source).closes

theorem escapeLineStarts_escapeLineStarts (t : Chars)
    : escapeLineStarts (escapeLineStarts t) = escapeLineStarts t := by
  have same : ∀ line ∈ Chars.lines (escapeLineStarts t), escapeLineStart line = line :=
    fun line held => escapeLineStart_of_closed (not_startsBlock_of_mem held)
  rw [escapeLineStarts, List.map_congr_left same, List.map_id', Chars.join_lines]

end MixedScript.Markdown
