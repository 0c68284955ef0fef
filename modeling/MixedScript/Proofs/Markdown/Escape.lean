import MixedScript.Markdown.Target
import MixedScript.Markdown.Writer
import MixedScript.Proofs.Markdown.LineStart

/-! Escaped text. Whatever a text holds, dropping the backslashes that escape something gives back what it
held before it was escaped: its characters one by one, its lines, and a title up to its closing quote. -/

namespace MixedScript.Markdown

variable {c : Char} {s t u line escaped : Chars}

-----------------------------------------------------------------------------------------
-- Dropping backslashes
-----------------------------------------------------------------------------------------

theorem unescape_cons (other : c ≠ '\\') (s : Chars)
    : unescape (c :: s) = c :: unescape s := by
  simp [unescape, unescapeFrom, other]

theorem unescape_escaped (punctuation : isAsciiPunctuation c = true) (s : Chars)
    : unescape ('\\' :: c :: s) = c :: unescape s := by
  simp [unescape, unescapeFrom, punctuation]

theorem unescape_append (plain : '\\' ∉ s) (t : Chars)
    : unescape (s ++ t) = s ++ unescape t := by
  induction s with
  | nil => rfl
  | cons c s ih =>
      obtain ⟨here, later⟩ := not_or.mp (List.mem_cons.not.mp plain)
      rw [List.cons_append, unescape_cons (Ne.symm here), ih later, List.cons_append]

theorem unescapeFrom_append (other : c ≠ '\\') (pending : Bool) (s t : Chars)
    : unescapeFrom pending (s ++ c :: t) = unescapeFrom pending (s ++ [c]) ++ unescape t := by
  induction s generalizing pending with
  | nil => cases pending <;> cases mark : isAsciiPunctuation c <;> simp [unescapeFrom, unescape, other, mark]
  | cons first s ih =>
      simp only [List.cons_append, unescapeFrom, ih]
      split
      · split <;> rfl
      · split <;> rfl

/-- Backslashes before a character that is none have nothing to do with what follows it. -/
theorem unescape_split (other : c ≠ '\\') (s t : Chars)
    : unescape (s ++ c :: t) = unescape (s ++ [c]) ++ unescape t :=
  unescapeFrom_append other false s t

/-- A backslash before punctuation makes no difference. -/
theorem unescape_backslash (plain : '\\' ∉ s) (punctuation : isAsciiPunctuation c = true)
    (other : c ≠ '\\') (t : Chars)
    : unescape (s ++ '\\' :: c :: t) = unescape (s ++ c :: t) := by
  rw [unescape_append plain, unescape_append plain, unescape_escaped punctuation, unescape_cons other]

-----------------------------------------------------------------------------------------
-- Runs of text
-----------------------------------------------------------------------------------------

theorem punctuation_of_mustEscape {inTable : Bool} {before after : Option Char}
    (h : mustEscape inTable before c after = true)
    : isAsciiPunctuation c = true := by
  simp only [mustEscape, Bool.or_eq_true, Bool.and_eq_true, beq_iff_eq,
    List.contains_iff_mem] at h
  have always : alwaysEscaped.all isAsciiPunctuation = true := by decide
  rcases h with ((held | ⟨rfl, -⟩) | ⟨rfl, -⟩) | ⟨rfl, -⟩
  · exact List.all_eq_true.mp always c held
  all_goals decide

theorem unescape_escapeFrom (inTable : Bool) (before : Option Char) (s : Chars)
    : unescape (escapeFrom inTable before s) = s := by
  induction s generalizing before with
  | nil => rfl
  | cons c s ih =>
      unfold escapeFrom
      split
      · next escape => rw [unescape_escaped (punctuation_of_mustEscape escape), ih]
      · next plain =>
          have other : c ≠ '\\' := by
            rintro rfl
            simp [mustEscape, alwaysEscaped] at plain
          rw [unescape_cons other, ih]

theorem unescape_escapeText (inTable : Bool) (s : Chars)
    : unescape (escapeText inTable s) = s :=
  unescape_escapeFrom inTable none s

-----------------------------------------------------------------------------------------
-- Lines
-----------------------------------------------------------------------------------------

theorem plain_indent (blank : isRestBlank s = true)
    : '\\' ∉ s :=
  fun held => absurd (List.all_eq_true.mp blank _ held) (by decide)

theorem plain_number (decimal : ∀ c ∈ s, Text.isDecimalDigit c = true)
    : '\\' ∉ s :=
  fun held => absurd (decimal _ held) (by decide)

theorem unescape_lineEscaped (h : LineEscaped line escaped) (u : Chars)
    : unescape (escaped ++ u) = unescape (line ++ u) := by
  cases h with
  | closed => rfl
  | @number indent ds rest d blank filled decimal delimiter =>
      have plain : '\\' ∉ indent ++ ds := by
        rw [List.mem_append, not_or]
        exact ⟨plain_indent blank, plain_number decimal⟩
      have dropped : unescape ((indent ++ ds) ++ '\\' :: d :: (rest ++ u))
          = unescape ((indent ++ ds) ++ d :: (rest ++ u)) := by
        rcases delimiter with rfl | rfl <;> exact unescape_backslash plain (by decide) (by decide) _
      simpa using dropped
  | @mark indent rest m blank mark =>
      have marks : ['-', '+', '>', '~', '='].all (fun c => isAsciiPunctuation c && c != '\\') = true := by
        decide
      obtain ⟨punctuation, other⟩ := Bool.and_eq_true_iff.mp (List.all_eq_true.mp marks m mark)
      simpa using unescape_backslash (plain_indent blank) punctuation (bne_iff_ne.mp other) (rest ++ u)

theorem unescape_join (lines : List Chars)
    : unescape (Chars.join ['\n'] (lines.map escapeLineStart)) = unescape (Chars.join ['\n'] lines) := by
  induction lines with
  | nil => rfl
  | cons line lines ih =>
      have escaped := unescape_lineEscaped (lineEscaped_escapeLineStart line)
      cases lines with
      | nil => simpa [Chars.join] using escaped []
      | cons next lines =>
          simp only [List.map_cons, Chars.join, List.append_assoc, List.singleton_append] at ih ⊢
          rw [escaped, unescape_split (by decide), ih, ← unescape_split (by decide)]

theorem unescape_escapeLineStarts (t : Chars)
    : unescape (escapeLineStarts t) = unescape t := by
  rw [escapeLineStarts, unescape_join, Chars.join_lines]

-----------------------------------------------------------------------------------------
-- Titles
-----------------------------------------------------------------------------------------

theorem unescape_title (s : Chars)
    : unescape (s.flatMap escapeTitleChar) = s := by
  induction s with
  | nil => rfl
  | cons c s ih =>
      rw [List.flatMap_cons, escapeTitleChar]
      split
      · next special =>
          have punctuation : isAsciiPunctuation c = true := by
            rcases Bool.or_eq_true_iff.mp special with h | h <;> rw [beq_iff_eq.mp h] <;> decide
          exact (unescape_escaped punctuation _).trans (congrArg (c :: ·) ih)
      · next plain =>
          have other : c ≠ '\\' := by
            rintro rfl
            simp at plain
          exact (unescape_cons other _).trans (congrArg (c :: ·) ih)

/-- A title is read up to the quote that closes it. -/
theorem readUntil?_title (s rest : Chars)
    : readUntil? ['\x22'] [] false (s.flatMap escapeTitleChar ++ '\x22' :: rest)
      = some (s.flatMap escapeTitleChar, rest) := by
  induction s with
  | nil => simp [readUntil?]
  | cons c s ih =>
      rw [List.flatMap_cons, escapeTitleChar]
      split
      · simp [readUntil?, ih]
      · next plain =>
          obtain ⟨noBackslash, noQuote⟩ : c ≠ '\\' ∧ c ≠ '\x22' := by simpa using plain
          have fresh : (c == '\\') = false := by simpa using noBackslash
          simp [readUntil?, noQuote, fresh, ih]

-----------------------------------------------------------------------------------------
-- Everything that is escaped
-----------------------------------------------------------------------------------------

/-- Where text is escaped, nothing of it is lost: neither of a run, inside a table or outside, nor of the
lines of a paragraph, none of which starts a block then, nor of a title. -/
theorem escapes_keep_text {c : Context} (escapes : c.options.escape = true)
    : (∀ s, unescape (c.text s) = s)
      ∧ (∀ t,
          unescape (c.paragraph t) = unescape t
          ∧ (∀ line ∈ Chars.lines (c.paragraph t), ¬ StartsBlock line)
          ∧ c.paragraph (c.paragraph t) = c.paragraph t)
      ∧ ∀ first more,
          ∃ title,
            titleSuffix (some (first :: more)) = ' ' :: '\x22' :: (title ++ ['\x22'])
            ∧ readUntil? ['\x22'] [] false (title ++ ['\x22']) = some (title, [])
            ∧ unescape title = first :: more := by
  simp only [Context.text, Context.paragraph, escapes, if_true]
  refine ⟨unescape_escapeText c.inTable, fun t => ⟨unescape_escapeLineStarts t, ?_, ?_⟩, ?_⟩
  · exact fun line held => not_startsBlock_of_mem held
  · exact escapeLineStarts_escapeLineStarts t
  · intro first more
    exact ⟨(first :: more).flatMap escapeTitleChar, rfl, readUntil?_title _ [], unescape_title _⟩

/-- Two lines that would start lists, in a cell. -/
theorem marks_in_cell_kept
    : let c : Context := { Context.root {} with inTable := true }
      let paragraph := c.paragraph " 12) a\\\n--".toList
      c.options.escape = true
      ∧ c.text "#_a|b\\".toList = "\\#\\_a\\|b\\\\".toList
      ∧ unescape (c.text "#_a|b\\".toList) = "#_a|b\\".toList
      ∧ paragraph = " 12\\) a\\\n\\--".toList
      ∧ unescape paragraph = unescape " 12) a\\\n--".toList
      ∧ "\\--".toList ∈ Chars.lines paragraph
      ∧ ¬ StartsBlock "\\--".toList := by
  intro c paragraph
  have kept := escapes_keep_text (c := c) rfl
  have line : "\\--".toList ∈ Chars.lines paragraph := by decide +kernel
  exact ⟨rfl, by decide +kernel, kept.1 _, by decide +kernel, (kept.2.1 _).1, line,
    (kept.2.1 _).2.1 _ line⟩

end MixedScript.Markdown
