import MixedScript.Markdown.Writer
import MixedScript.Proofs.Markdown.Backslash
import MixedScript.Proofs.Text.Balance

/-! Destinations of links. Angle brackets stand around a destination whose parentheses differ in number, but
not around one that closes a parenthesis too early; and neither form escapes anything. -/

namespace MixedScript.Markdown

variable {c : Char} {url later : Chars}

-----------------------------------------------------------------------------------------
-- Between angle brackets
-----------------------------------------------------------------------------------------

/-- What may not stand between angle brackets. -/
def angleEnds : List Char := ['<', '>', '\n']

theorem bracketed_escaped (other : c ≠ '\n') (s : Chars)
    : readUntil? ['>'] ['<', '\n'] true (c :: s)
      = (readUntil? ['>'] ['<', '\n'] false s).map (fun (t, r) => (c :: t, r)) := by
  simp [readUntil?, other]

theorem bracketed_plain (plain : c ∉ angleEnds) (s : Chars)
    : readUntil? ['>'] ['<', '\n'] false (c :: s)
      = (readUntil? ['>'] ['<', '\n'] (c == '\\') s).map (fun (t, r) => (c :: t, r)) := by
  simp only [angleEnds, List.mem_cons, List.not_mem_nil, or_false, not_or] at plain
  simp [readUntil?, plain]

theorem bracketed_ends (ends : c ∈ angleEnds) (s : Chars)
    : readUntil? ['>'] ['<', '\n'] false (c :: s) ≠ some (c :: url, later) := by
  simp only [angleEnds, List.mem_cons, List.not_mem_nil, or_false] at ends
  rcases ends with rfl | rfl | rfl <;> simp [readUntil?]

theorem bracketed_feed (s : Chars)
    : readUntil? ['>'] ['<', '\n'] true ('\n' :: s) = none := rfl

theorem bracketed_reads_back_iff (escaped : Bool) (url later : Chars)
    : (readUntil? ['>'] ['<', '\n'] escaped (url ++ '>' :: later) = some (url, later)
        ∧ unescapeFrom escaped url = behind escaped url)
      ↔ (∀ c ∈ url, c ∉ angleEnds) ∧ BackslashesIdle [] (behind escaped url) := by
  induction url generalizing escaped with
  | nil =>
      cases escaped with
      | false => simp [readUntil?, unescapeFrom, behind_false, backslashesIdle_nil]
      | true => simp [readUntil?, behind_true, not_backslashesIdle_backslash]
  | cons c url ih =>
      have free := ih false
      have pending := ih true
      simp only [behind_true, behind_false] at free pending
      rw [List.forall_mem_cons, List.cons_append]
      cases escaped with
      | false =>
          rw [behind_false]
          by_cases ends : c ∈ angleEnds
          · simp [ends, bracketed_ends ends]
          · rw [bracketed_plain ends, map_cons_eq_some]
            by_cases backslash : c = '\\'
            · subst backslash
              simpa [ends, unescapeFrom] using pending
            · rw [unescapeFrom_false_cons_iff backslash, backslashesIdle_cons backslash]
              simpa [ends, beq_false_of_ne backslash] using free
      | true =>
          rw [behind_true, unescapeFrom_true_cons_iff, backslashesIdle_backslash_cons]
          by_cases feed : c = '\n'
          · simp [feed, bracketed_feed, angleEnds]
          · rw [bracketed_escaped feed, map_cons_eq_some]
            cases punctuation : isAsciiPunctuation c with
            | true => simp
            | false =>
                have plain : c ∉ angleEnds := by
                  simpa [angleEnds] using ⟨ne_of_not_punctuation punctuation '<' rfl,
                    ne_of_not_punctuation punctuation '>' rfl, feed⟩
                rw [backslashesIdle_cons (ne_of_not_punctuation punctuation '\\' rfl)]
                simpa [plain] using free

-----------------------------------------------------------------------------------------
-- Bare destinations
-----------------------------------------------------------------------------------------

/-- A character that does not end a bare destination by itself. -/
def Graphic (c : Char) : Prop :=
  ' ' < c ∧ c ≠ '\x7f'

theorem pair_cons_eq {read : Chars × Chars}
    : (c :: read.1, read.2) = (c :: url, later) ↔ read = (url, later) := by
  simp [Prod.ext_iff]

theorem bare_escaped (graphic : Graphic c) (opened : Nat) (s : Chars)
    : bareDestination opened true (c :: s)
      = (c :: (bareDestination opened false s).1, (bareDestination opened false s).2) := by
  obtain ⟨low, delete⟩ := graphic
  simp [bareDestination, Char.not_le.mpr low, delete]

theorem bare_closing (opened : Nat) (s : Chars)
    : bareDestination (opened + 1) false (')' :: s)
      = (')' :: (bareDestination opened false s).1, (bareDestination opened false s).2) := rfl

theorem bare_ends (s : Chars)
    : bareDestination 0 false (')' :: s) = ([], ')' :: s) := rfl

theorem bare_plain (graphic : Graphic c) (other : c ≠ ')') (opened : Nat) (s : Chars)
    : bareDestination opened false (c :: s)
      = (c :: (bareDestination (if c == '(' then opened + 1 else opened) (c == '\\') s).1,
        (bareDestination (if c == '(' then opened + 1 else opened) (c == '\\') s).2) := by
  obtain ⟨low, delete⟩ := graphic
  simp [bareDestination, Char.not_le.mpr low, delete, other]

theorem bare_reads_back_iff (opened : Nat) (escaped : Bool) (later : Chars)
    (graphic : ∀ c ∈ url, Graphic c)
    : (bareDestination opened escaped (url ++ ')' :: later) = (url, ')' :: later)
        ∧ unescapeFrom escaped url = behind escaped url)
      ↔ Chars.BalancedFrom opened '(' ')' url ∧ BackslashesIdle [] (behind escaped url) := by
  induction url generalizing opened escaped with
  | nil =>
      have paren : Graphic ')' := ⟨by decide, by decide⟩
      cases escaped with
      | false =>
          cases opened with
          | zero => simp [bare_ends, unescapeFrom, behind_false, backslashesIdle_nil,
              Chars.balancedFrom_nil]
          | succ opened => simp [bare_closing, Chars.balancedFrom_nil]
      | true => simp [bare_escaped paren, behind_true, not_backslashesIdle_backslash]
  | cons c url ih =>
      obtain ⟨here, behindHere⟩ := List.forall_mem_cons.mp graphic
      have free := fun opened => ih opened false behindHere
      have pending := fun opened => ih opened true behindHere
      simp only [behind_true, behind_false] at free pending
      rw [List.cons_append]
      cases escaped with
      | false =>
          rw [behind_false]
          by_cases closing : c = ')'
          · subst closing
            rw [unescapeFrom_false_cons_iff (by decide), backslashesIdle_cons (by decide)]
            cases opened with
            | zero => simp [bare_ends, Chars.not_balanced_cons_closing]
            | succ opened =>
                rw [bare_closing, pair_cons_eq, Chars.balancedFrom_cons_closing (by decide)]
                exact free opened
          · rw [bare_plain here closing, pair_cons_eq]
            by_cases backslash : c = '\\'
            · subst backslash
              rw [Chars.balancedFrom_cons_other (by decide) (by decide)]
              simpa [unescapeFrom] using pending opened
            · rw [unescapeFrom_false_cons_iff backslash, backslashesIdle_cons backslash,
                beq_false_of_ne backslash]
              by_cases opening : c = '('
              · subst opening
                rw [Chars.balancedFrom_cons_opening (by decide)]
                exact free (opened + 1)
              · rw [Chars.balancedFrom_cons_other opening closing, beq_false_of_ne opening]
                exact free opened
      | true =>
          rw [behind_true, unescapeFrom_true_cons_iff, backslashesIdle_backslash_cons,
            bare_escaped here, pair_cons_eq]
          cases punctuation : isAsciiPunctuation c with
          | true => simp
          | false =>
              have apart := ne_of_not_punctuation punctuation
              rw [backslashesIdle_cons (apart '\\' rfl),
                Chars.balancedFrom_cons_other (apart '(' rfl) (apart ')' rfl)]
              simpa using free opened

theorem not_isUnbalanced {opened : Nat} (escaped : Bool)
    (balanced : Chars.BalancedFrom opened '(' ')' url)
    (idle : BackslashesIdle [] (behind escaped url))
    : isUnbalanced opened escaped url = false := by
  induction url generalizing opened escaped with
  | nil => simpa [isUnbalanced] using Chars.balancedFrom_nil.mp balanced
  | cons c url ih =>
      cases escaped with
      | false =>
          rw [behind_false] at idle
          by_cases backslash : c = '\\'
          · subst backslash
            rw [Chars.balancedFrom_cons_other (by decide) (by decide)] at balanced
            exact ih true balanced idle
          · rw [backslashesIdle_cons backslash] at idle
            have free := fun {opened} balanced => @ih opened false balanced idle
            by_cases opening : c = '('
            · subst opening
              exact free ((Chars.balancedFrom_cons_opening (by decide)).mp balanced)
            · by_cases closing : c = ')'
              · subst closing
                cases opened with
                | zero => exact absurd balanced (Chars.not_balanced_cons_closing (by decide))
                | succ opened =>
                    exact free ((Chars.balancedFrom_cons_closing (by decide)).mp balanced)
              · rw [Chars.balancedFrom_cons_other opening closing] at balanced
                simpa [isUnbalanced, opening, closing, beq_false_of_ne backslash] using free balanced
      | true =>
          obtain ⟨plain, idle⟩ := backslashesIdle_backslash_cons.mp idle
          have apart := ne_of_not_punctuation (plain.resolve_right List.not_mem_nil)
          rw [backslashesIdle_cons (apart '\\' rfl)] at idle
          rw [Chars.balancedFrom_cons_other (apart '(' rfl) (apart ')' rfl)] at balanced
          exact ih false balanced idle

-----------------------------------------------------------------------------------------
-- Written destinations
-----------------------------------------------------------------------------------------

theorem readUntil?_split {ends barred : List Char} {escaped : Bool} {s t r : Chars}
    (read : readUntil? ends barred escaped s = some (t, r))
    : ∃ x ∈ ends, s = t ++ x :: r := by
  induction s generalizing escaped t with
  | nil => cases read
  | cons c s ih =>
      have taken : ∀ escaped,
          (readUntil? ends barred escaped s).map (fun (t, r) => (c :: t, r)) = some (t, r)
            → ∃ x ∈ ends, c :: s = t ++ x :: r := by
        intro escaped read
        obtain ⟨⟨t, r⟩, inner, same⟩ := Option.map_eq_some_iff.mp read
        obtain ⟨rfl, rfl⟩ := Prod.mk.inj same
        obtain ⟨x, ends, shape⟩ := ih inner
        exact ⟨x, ends, congrArg (c :: ·) shape⟩
      unfold readUntil? at read
      split at read
      · exact taken _ read
      · split at read
        · next ends =>
            obtain ⟨rfl, rfl⟩ := Prod.mk.inj (Option.some.inj read)
            exact ⟨c, by simpa using ends, rfl⟩
        · split at read
          · cases read
          · exact taken _ read

theorem bareDestination_split (opened : Nat) (escaped : Bool) (s : Chars)
    : (bareDestination opened escaped s).1 ++ (bareDestination opened escaped s).2 = s := by
  induction s generalizing opened escaped with
  | nil => rfl
  | cons c s ih =>
      unfold bareDestination
      split
      · rfl
      · split
        · exact congrArg (c :: ·) (ih opened false)
        · split
          · cases opened with
            | zero => rfl
            | succ opened => exact congrArg (c :: ·) (ih opened false)
          · exact congrArg (c :: ·) (ih _ _)

theorem destination?_bracketed (s : Chars)
    : destination? ('<' :: s) = bracketDestination? s := rfl

theorem destination?_bare {s : Chars} (solid : Graphic c) (noAngle : c ≠ '<')
    : destination? (c :: s)
      = if isUnbalanced 0 false (bareDestination 0 false (c :: s)).1 then none
        else some (bareDestination 0 false (c :: s)) := by
  have visible : ∀ b : Char, b ≤ ' ' → c ≠ b := by
    rintro b low rfl
    exact absurd solid.1 (Char.not_lt.mpr low)
  have start : dropGap (c :: s) = c :: s := by
    have flush : dropInlineBlank (c :: s) = c :: s := by
      simp [dropInlineBlank, Text.isInlineBlank, visible ' ' (by decide), visible '\t' (by decide)]
    unfold dropGap
    rw [flush]
    split
    · next same => exact absurd (List.cons.inj same).1 (visible '\n' (by decide))
    · rfl
  unfold destination?
  rw [start]
  split
  · next same => exact absurd (List.cons.inj same).1 noAngle
  · rfl

/-- What is read back from between angle brackets is what stands there. -/
theorem bracketed_unescaped_iff
    : (bracketDestination? (url ++ '>' :: later)).map (fun (t, rest) => (unescape t, rest))
        = some (url, later)
      ↔ (∀ c ∈ url, c ∉ angleEnds) ∧ BackslashesIdle [] url := by
  have whole := bracketed_reads_back_iff false url later
  rw [behind_false] at whole
  rw [← whole, Option.map_eq_some_iff]
  constructor
  · rintro ⟨⟨t, r⟩, read, same⟩
    obtain ⟨unescaped, rfl⟩ := Prod.mk.inj same
    obtain ⟨x, ends, shape⟩ := readUntil?_split read
    obtain rfl := List.mem_singleton.mp ends
    obtain rfl := List.append_cancel_right shape
    exact ⟨read, unescaped⟩
  · rintro ⟨read, unescaped⟩
    exact ⟨(url, later), read, congrArg (·, later) unescaped⟩

theorem bare_unescaped_iff (graphic : ∀ c ∈ url, Graphic c)
    : (if isUnbalanced 0 false (bareDestination 0 false (url ++ ')' :: later)).1 then none
        else some (bareDestination 0 false (url ++ ')' :: later))).map
          (fun (t, rest) => (unescape t, rest))
        = some (url, ')' :: later)
      ↔ Chars.Balanced '(' ')' url ∧ BackslashesIdle [] url := by
  have whole := bare_reads_back_iff 0 false later graphic
  rw [behind_false] at whole
  constructor
  · intro read
    split at read
    · cases read
    · obtain ⟨unescaped, rest⟩ := Prod.mk.inj (Option.some.inj read)
      have split := bareDestination_split 0 false (url ++ ')' :: later)
      rw [rest] at split
      have consumed := List.append_cancel_right split
      rw [consumed] at unescaped
      exact whole.mp ⟨Prod.ext consumed rest, unescaped⟩
  · rintro ⟨balanced, idle⟩
    obtain ⟨read, unescaped⟩ := whole.mpr ⟨balanced, idle⟩
    rw [read, if_neg (Bool.eq_false_iff.mp (not_isUnbalanced false balanced idle))]
    exact congrArg (fun t => some (t, ')' :: later)) unescaped

/-- What a bare destination is made of. -/
theorem bare_of_needsAngles (bare : needsAngles url = false)
    : url ≠ []
      ∧ (∀ c ∈ url, Text.isBlank c = false ∧ c ≠ '<' ∧ c ≠ '>')
      ∧ url.count '(' = url.count ')' := by
  simpa [needsAngles, and_assoc, not_or] using bare

/-- A destination without control characters is read back up to the parenthesis behind it exactly if
it holds no angle brackets and no backslash that would escape something, and, where it stands without
brackets, closes no parenthesis before it opens it. -/
theorem destination_reads_back_iff (printable : ∀ c ∈ url, ' ' ≤ c ∧ c ≠ '\x7f') (later : Chars)
    : (destination? (destination url ++ ')' :: later)).map (fun (t, rest) => (unescape t, rest))
        = some (url, ')' :: later)
      ↔ ('<' ∉ url ∧ '>' ∉ url)
        ∧ BackslashesIdle [] url
        ∧ (needsAngles url = false → Chars.Balanced '(' ')' url) := by
  cases angles : needsAngles url with
  | true =>
      have read : destination? (destination url ++ ')' :: later)
          = bracketDestination? (url ++ '>' :: ')' :: later) := by
        rw [destination, angles, if_pos rfl, List.append_assoc, List.cons_append,
          destination?_bracketed]
        rfl
      have single : '\n' ∉ url := fun held => absurd (printable _ held).1 (by decide)
      have apart : (∀ c ∈ url, c ∉ angleEnds) ↔ '<' ∉ url ∧ '>' ∉ url := by
        constructor
        · intro apart
          exact ⟨fun held => apart _ held (by decide), fun held => apart _ held (by decide)⟩
        · rintro ⟨noOpening, noClosing⟩ c held ends
          simp only [angleEnds, List.mem_cons, List.not_mem_nil, or_false] at ends
          rcases ends with rfl | rfl | rfl
          exacts [noOpening held, noClosing held, single held]
      rw [read, bracketed_unescaped_iff, apart]
      simp
  | false =>
      obtain ⟨filled, plain, -⟩ := bare_of_needsAngles angles
      have graphic : ∀ c ∈ url, Graphic c := by
        intro c held
        have noSpace : ' ' ≠ c := by
          rintro rfl
          exact absurd (plain _ held).1 (by decide)
        exact ⟨Char.not_le.mp (fun low => noSpace (Char.le_antisymm (printable c held).1 low)),
          (printable c held).2⟩
      have noAngles : '<' ∉ url ∧ '>' ∉ url :=
        ⟨fun held => (plain _ held).2.1 rfl, fun held => (plain _ held).2.2 rfl⟩
      have read : destination? (destination url ++ ')' :: later)
          = if isUnbalanced 0 false (bareDestination 0 false (url ++ ')' :: later)).1 then none
            else some (bareDestination 0 false (url ++ ')' :: later)) := by
        obtain ⟨c, more, rfl⟩ := List.exists_cons_of_ne_nil filled
        rw [destination, angles, if_neg Bool.false_ne_true]
        exact destination?_bare (graphic c List.mem_cons_self) (plain c List.mem_cons_self).2.1
      rw [read, bare_unescaped_iff graphic]
      simp [noAngles, and_comm]

/-- Spaces call for brackets, between which parentheses need not balance; without them they do. -/
theorem spaced_destination_reads_back
    : let url := "b)(c \\d".toList
      (∀ c ∈ url, ' ' ≤ c ∧ c ≠ '\x7f')
      ∧ destination url = "<b)(c \\d>".toList
      ∧ ∀ later,
          (destination? (destination url ++ ')' :: later)).map (fun (t, rest) => (unescape t, rest))
            = some (url, ')' :: later) := by
  intro url
  have printable : ∀ c ∈ url, ' ' ≤ c ∧ c ≠ '\x7f' := by simp [url]
  exact ⟨printable, by decide +kernel,
    fun later => (destination_reads_back_iff printable later).mpr (by decide +kernel)⟩

/-- As many parentheses of either kind, in the wrong order, end a destination too early. -/
theorem closing_parenthesis_ends_destination
    : ¬ ∀ url : Chars, (∀ c ∈ url, ' ' ≤ c ∧ c ≠ '\x7f') → ∀ later,
        (destination? (destination url ++ ')' :: later)).map (fun (t, rest) => (unescape t, rest))
          = some (url, ')' :: later) := by
  intro reads
  have read := reads "b)(c".toList (by simp) []
  revert read
  decide +kernel

end MixedScript.Markdown
