import MixedScript.Markdown.TokenTree
import MixedScript.Markdown.Writer
import MixedScript.Proofs.Markdown.Backslash
import MixedScript.Proofs.Result
import MixedScript.Proofs.Text.Balance

/-! The text of an image. Its brackets are escaped but its backslashes are not: a backslash that escapes
something is lost, and one before a bracket takes the backslash that should escape the bracket. -/

namespace MixedScript.Markdown

variable {c : Char} {alt later s t : Chars}

/-- The text up to the bracket that closes one before it, and what follows. Brackets inside are balanced;
a backslash takes the next character with it. -/
def closingBracket? (opened : Nat) (escaped : Bool) : Chars → Option (Chars × Chars)
  | [] => none
  | c :: rest =>
      if escaped then (closingBracket? opened false rest).map (fun (t, r) => (c :: t, r))
      else if c = ']' then
        match opened with
        | 0 => some ([], rest)
        | opened + 1 => (closingBracket? opened false rest).map (fun (t, r) => (c :: t, r))
      else
        (closingBracket? (if c = '[' then opened + 1 else opened) (c == '\\') rest).map
          (fun (t, r) => (c :: t, r))

/-- The brackets. -/
def brackets : List Char := ['[', ']']

/-- The brackets of a text that stand right behind a backslash, given whether one has just been read. -/
def bareBracketsFrom (escaped : Bool) : Chars → Chars
  | [] => []
  | c :: rest =>
      (if escaped && brackets.contains c then [c] else []) ++ bareBracketsFrom (c == '\\') rest

/-- The brackets of a text that stand right behind a backslash. -/
def bareBrackets (s : Chars) : Chars :=
  bareBracketsFrom false s

theorem bareBracketsFrom_false (c : Char) (s : Chars)
    : bareBracketsFrom false (c :: s) = bareBracketsFrom (c == '\\') s := rfl

theorem bareBracketsFrom_bracket (bracket : c ∈ brackets) (s : Chars)
    : bareBracketsFrom true (c :: s) = c :: bareBracketsFrom (c == '\\') s := by
  simp [bareBracketsFrom, bracket]

theorem bareBracketsFrom_other (other : c ∉ brackets) (s : Chars)
    : bareBracketsFrom true (c :: s) = bareBracketsFrom (c == '\\') s := by
  simp [bareBracketsFrom, other]

theorem bracket_iff
    : c ∈ brackets ↔ c = '[' ∨ c = ']' := by
  simp [brackets]

theorem bracket_punctuation (bracket : c ∈ brackets)
    : isAsciiPunctuation c = true ∧ c ≠ '\\' := by
  rcases bracket_iff.mp bracket with rfl | rfl <;> decide

theorem escapeBrackets_bracket (bracket : c ∈ brackets) (s : Chars)
    : escapeBrackets (c :: s) = '\\' :: c :: escapeBrackets s := by
  rcases bracket_iff.mp bracket with rfl | rfl <;> rfl

theorem escapeBrackets_other (other : c ∉ brackets) (s : Chars)
    : escapeBrackets (c :: s) = c :: escapeBrackets s := by
  simp only [bracket_iff, not_or] at other
  simp [escapeBrackets, other]

theorem length_unescape_escapeBrackets (escaped : Bool) (s : Chars)
    : (unescapeFrom escaped (escapeBrackets s)).length ≤ s.length + escaped.toNat := by
  induction s generalizing escaped with
  | nil => cases escaped <;> simp [escapeBrackets, unescapeFrom]
  | cons c s ih =>
      by_cases bracket : c ∈ brackets
      · obtain ⟨punctuation, apart⟩ := bracket_punctuation bracket
        have free := ih false
        rw [escapeBrackets_bracket bracket]
        cases escaped with
        | false => simpa [unescapeFrom, punctuation] using free
        | true =>
            rw [unescapeFrom_punctuation rfl, unescapeFrom_false_cons apart]
            simpa using free
      · rw [escapeBrackets_other bracket]
        exact length_unescapeFrom_cons (ih true) (ih false) escaped c

-----------------------------------------------------------------------------------------
-- Reading up to the closing bracket
-----------------------------------------------------------------------------------------

theorem closing_escaped (opened : Nat) (c : Char) (s : Chars)
    : closingBracket? opened true (c :: s)
      = (closingBracket? opened false s).map (fun (t, r) => (c :: t, r)) := rfl

theorem closing_opening (opened : Nat) (s : Chars)
    : closingBracket? opened false ('[' :: s)
      = (closingBracket? (opened + 1) false s).map (fun (t, r) => ('[' :: t, r)) := rfl

theorem closing_closing (opened : Nat) (s : Chars)
    : closingBracket? (opened + 1) false (']' :: s)
      = (closingBracket? opened false s).map (fun (t, r) => (']' :: t, r)) := rfl

theorem closing_ends (s : Chars)
    : closingBracket? 0 false (']' :: s) = some ([], s) := rfl

theorem closing_plain (plain : c ∉ brackets) (opened : Nat) (s : Chars)
    : closingBracket? opened false (c :: s)
      = (closingBracket? opened (c == '\\') s).map (fun (t, r) => (c :: t, r)) := by
  simp only [bracket_iff, not_or] at plain
  simp [closingBracket?, plain]

/-- A bracket behind a backslash is open to the reader, since its own backslash is taken. -/
theorem bare_bracket_reads_back_iff (bracket : c ∈ brackets) (opened : Nat) {read bare : Chars}
    {same idle : Prop}
    (inside : ∀ opened, closingBracket? opened false t = some (read, later) ∧ same
      ↔ idle ∧ Chars.BalancedFrom opened '[' ']' bare)
    : closingBracket? opened false (c :: t) = some (c :: read, later) ∧ same
      ↔ idle ∧ Chars.BalancedFrom opened '[' ']' (c :: bare) := by
  rcases bracket_iff.mp bracket with rfl | rfl
  · rw [closing_opening, map_cons_eq_some, inside, Chars.balancedFrom_cons_opening (by decide)]
  · cases opened with
    | zero => simp [closing_ends, Chars.not_balanced_cons_closing]
    | succ opened =>
        rw [closing_closing, map_cons_eq_some, inside, Chars.balancedFrom_cons_closing (by decide)]

/-- Escaped brackets are closed by the bracket behind them, and what they hold comes back, exactly if the
backslashes of the text are idle and the brackets that they lay bare balance. -/
theorem brackets_read_back_iff (opened : Nat) (escaped : Bool) (alt later : Chars)
    : (closingBracket? opened escaped (escapeBrackets alt ++ ']' :: later)
          = some (escapeBrackets alt, later)
        ∧ unescapeFrom escaped (escapeBrackets alt) = behind escaped alt)
      ↔ BackslashesIdle brackets (behind escaped alt)
        ∧ Chars.BalancedFrom opened '[' ']' (bareBracketsFrom escaped alt) := by
  induction alt generalizing opened escaped with
  | nil =>
      have empty : escapeBrackets [] = [] := rfl
      cases escaped with
      | false =>
          cases opened with
          | zero => simp [empty, closing_ends, unescapeFrom, behind_false, backslashesIdle_nil,
              bareBracketsFrom, Chars.balancedFrom_nil]
          | succ opened => simp [empty, closing_closing, bareBracketsFrom, Chars.balancedFrom_nil]
      | true => simp [empty, closing_escaped, behind_true, not_backslashesIdle_backslash]
  | cons c alt ih =>
      have free := fun opened => ih opened false
      have pending := fun opened => ih opened true
      simp only [behind_true, behind_false] at free pending
      by_cases bracket : c ∈ brackets
      · obtain ⟨punctuation, apart⟩ := bracket_punctuation bracket
        have noBrackets : '\\' ∉ brackets := by decide
        rw [escapeBrackets_bracket bracket, List.cons_append, List.cons_append]
        cases escaped with
        | false =>
            have unescaped : unescapeFrom false ('\\' :: c :: escapeBrackets alt)
                = c :: unescapeFrom false (escapeBrackets alt) := unescape_escaped punctuation _
            rw [closing_plain noBrackets, map_cons_eq_some, beq_self_eq_true, closing_escaped,
              map_cons_eq_some, unescaped, behind_false, List.cons_inj_right,
              backslashesIdle_cons apart, bareBracketsFrom_false, beq_false_of_ne apart]
            exact free opened
        | true =>
            rw [closing_escaped, map_cons_eq_some, unescapeFrom_punctuation rfl,
              unescapeFrom_false_cons apart, behind_true, List.cons_inj_right, List.cons_inj_right,
              backslashesIdle_backslash_cons, backslashesIdle_cons apart,
              bareBracketsFrom_bracket bracket, beq_false_of_ne apart]
            simpa [bracket] using bare_bracket_reads_back_iff bracket opened free
      · rw [escapeBrackets_other bracket, List.cons_append]
        cases escaped with
        | false =>
            rw [closing_plain bracket, map_cons_eq_some, behind_false, bareBracketsFrom_false]
            by_cases backslash : c = '\\'
            · subst backslash
              simpa [unescapeFrom] using pending opened
            · rw [unescapeFrom_false_cons backslash, List.cons_inj_right,
                backslashesIdle_cons backslash, beq_false_of_ne backslash]
              exact free opened
        | true =>
            rw [closing_escaped, map_cons_eq_some, behind_true, backslashesIdle_backslash_cons]
            cases punctuation : isAsciiPunctuation c with
            | true =>
                -- The backslash is lost, and nothing behind it makes up for it.
                have shorter : unescapeFrom true (c :: escapeBrackets alt) ≠ '\\' :: c :: alt := by
                  intro same
                  have bound := length_unescape_escapeBrackets false alt
                  have lengths := congrArg List.length same
                  simp [unescapeFrom, punctuation] at lengths bound
                  omega
                simp [shorter, bracket]
            | false =>
                have apart := ne_of_not_punctuation punctuation '\\' rfl
                rw [unescapeFrom_plain punctuation, List.cons_inj_right, List.cons_inj_right,
                  backslashesIdle_cons apart, bareBracketsFrom_other bracket, beq_false_of_ne apart]
                simpa using free opened

-----------------------------------------------------------------------------------------
-- Written images
-----------------------------------------------------------------------------------------

section References

variable (text identifier : Chars) (label : Option Chars) (isLabel : Chars → Bool)

theorem referenceText_full
    : referenceText .full text identifier label isLabel
      = '[' :: (text ++ ']' :: '[' :: (referenceLabel identifier label ++ [']'])) := by
  rcases label with - | - | ⟨first, more⟩ <;> simp [referenceText, referenceLabel]

theorem referenceText_shortcut
    : referenceText .shortcut text identifier label isLabel
      = if isLabel (referenceLabel identifier label) then '[' :: (text ++ [']'])
        else referenceText .full text identifier label isLabel := by
  rcases label with - | - | ⟨first, more⟩ <;> rfl

theorem referenceText_shape (style : ReferenceStyle)
    : ∃ later, referenceText style text identifier label isLabel = '[' :: (text ++ ']' :: later) := by
  cases style with
  | collapsed => exact ⟨['[', ']'], rfl⟩
  | full => exact ⟨_, referenceText_full text identifier label isLabel⟩
  | shortcut =>
      rw [referenceText_shortcut]
      split
      · exact ⟨[], rfl⟩
      · exact ⟨_, referenceText_full text identifier label isLabel⟩

end References

/-- The text that stands for an image. -/
def imageText? : Inert → Option Chars
  | .image _ alt _ => some alt
  | .imageReference _ alt _ _ => some alt
  | _ => none

theorem inertText_image (options : WriterOptions) (m : Mapping) {leaf : Inert}
    (image : imageText? leaf = some alt)
    : ∃ later, inertText options m leaf = .ok ('!' :: '[' :: (escapeBrackets alt ++ ']' :: later)) := by
  cases leaf with
  | image url text title =>
      cases image
      exact ⟨'(' :: (destination url ++ titleSuffix title ++ [')']), by simp [inertText]⟩
  | imageReference identifier text label style =>
      cases image
      obtain ⟨later, shape⟩ :=
        referenceText_shape (escapeBrackets alt) identifier label (alt == ·) style
      exact ⟨later, by rw [inertText, shape]⟩
  | _ => cases image

/-- The text of an image, or of a reference to one, is closed by the bracket written behind it and read
back exactly if none of its backslashes escapes something other than a bracket or stands last, and the
brackets behind its backslashes balance. -/
theorem image_text_reads_back_iff (options : WriterOptions) (m : Mapping) {leaf : Inert}
    (image : imageText? leaf = some alt)
    : ∃ later,
        inertText options m leaf = .ok ('!' :: '[' :: (escapeBrackets alt ++ ']' :: later))
        ∧ (closingBracket? 0 false (escapeBrackets alt ++ ']' :: later) = some (escapeBrackets alt, later)
            ∧ unescape (escapeBrackets alt) = alt
          ↔ BackslashesIdle brackets alt ∧ Chars.Balanced '[' ']' (bareBrackets alt)) := by
  obtain ⟨later, written⟩ := inertText_image options m image
  exact ⟨later, written, brackets_read_back_iff 0 false alt later⟩

/-- Backslashes before brackets are read back, the brackets being balanced. -/
theorem backslashed_brackets_read_back
    : let leaf := Inert.image "u".toList "a]\\[b\\]c".toList none
      let text := "a\\]\\\\[b\\\\]c".toList
      imageText? leaf = some "a]\\[b\\]c".toList
      ∧ inertText {} [] leaf = .ok ('!' :: '[' :: (text ++ "](u)".toList))
      ∧ closingBracket? 0 false (text ++ "](u)".toList) = some (text, "(u)".toList)
      ∧ unescape text = "a]\\[b\\]c".toList := by
  intro leaf text
  have image : imageText? leaf = some "a]\\[b\\]c".toList := rfl
  obtain ⟨later, written, reads⟩ := image_text_reads_back_iff {} [] image
  have same : escapeBrackets "a]\\[b\\]c".toList = text := by decide +kernel
  have known : inertText {} [] leaf = .ok ('!' :: '[' :: (text ++ "](u)".toList)) := by decide +kernel
  rw [same] at written reads
  obtain rfl : later = "(u)".toList := by
    have texts := Except.ok.inj (written.symm.trans known)
    simpa using texts
  exact ⟨image, known, reads.mpr (by decide +kernel)⟩

/-- A backslash at the end takes the closing bracket with it. -/
theorem last_backslash_takes_bracket
    : ¬ ∀ (options : WriterOptions) (m : Mapping) (leaf : Inert) (alt : Chars),
        imageText? leaf = some alt
          → ∃ later,
              inertText options m leaf = .ok ('!' :: '[' :: (escapeBrackets alt ++ ']' :: later))
              ∧ closingBracket? 0 false (escapeBrackets alt ++ ']' :: later)
                  = some (escapeBrackets alt, later)
              ∧ unescape (escapeBrackets alt) = alt := by
  intro reads
  obtain ⟨later, written, read, -⟩ := reads {} [] (.image "u".toList "a\\".toList none) _ rfl
  have texts : '!' :: '[' :: (escapeBrackets "a\\".toList ++ ']' :: later)
      = '!' :: '[' :: (escapeBrackets "a\\".toList ++ ']' :: "(u)".toList) :=
    Except.ok.inj (written.symm.trans (by decide +kernel))
  obtain rfl : later = "(u)".toList := by simpa using texts
  revert read
  decide +kernel

end MixedScript.Markdown
