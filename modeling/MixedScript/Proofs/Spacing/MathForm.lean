import MixedScript.Proofs.Spacing.MathSource
import MixedScript.Proofs.Text.Lines
import MixedScript.Proofs.Text.Trim
import Mathlib.Data.List.Chain

/-! The form of tidied math source. Blanks, the blanks inside a line and the ends of lines are three different
classes of characters, but a source in this form gives none of the steps of tidying anything to do: the sources
in it are exactly those that tidying leaves as they are. -/

namespace MixedScript.Spacing

variable {s t line : Chars} {lines : List Chars}

/-- Of two neighbouring characters at most one is a space. -/
def SpacesApart (s : Chars) : Prop :=
  s.IsChain (fun c d => c = ' ' → d ≠ ' ')

/-- A text that does not end with a blank. -/
def NoBlankEnd (s : Chars) : Prop :=
  ∀ c, s.getLast? = some c → Text.isBlank c = false

/-- Math source in its normal form. -/
structure TidyForm (t : Chars) : Prop where
  noBlankStart : ∀ c, t.head? = some c → Text.isBlank c = false
  noBlankEnd : NoBlankEnd t
  noTab : '\t' ∉ t
  spacesApart : SpacesApart t
  /-- No line ends with a blank. -/
  lines : ∀ line ∈ Chars.boundaryLines t, NoBlankEnd line
  /-- A line feed is the only thing that ends a line. -/
  feeds : ∀ c ∈ t, Text.isLineBoundary c = true → c = '\n'

-----------------------------------------------------------------------------------------
-- One line
-----------------------------------------------------------------------------------------

theorem spacesApart_cons {c : Char}
    : SpacesApart (c :: s) ↔ (c = ' ' → s.head? ≠ some ' ') ∧ SpacesApart s := by
  rw [SpacesApart, List.isChain_cons]
  refine and_congr_left fun _ => ⟨fun apart space next => ?_, fun apart d next space same => ?_⟩
  · exact apart ' ' next space rfl
  · exact apart space (same ▸ next)

theorem collapseFrom_true_ne (c : Char) (s : Chars)
    : collapseFrom true s ≠ c :: s := by
  intro same
  have shorter := length_collapseFrom_le true s
  rw [same, List.length_cons] at shorter
  omega

/-- Collapsing leaves a line as it is if it has no tab in it, no two spaces in a row, and no space at its
start where a run goes on. -/
theorem collapseFrom_eq_self {inRun : Bool}
    : collapseFrom inRun s = s
      ↔ '\t' ∉ s ∧ SpacesApart s ∧ (inRun = true → s.head? ≠ some ' ') := by
  induction s generalizing inRun with
  | nil => simp [collapseFrom, SpacesApart]
  | cons c rest ih =>
      have run : ∀ d, Text.isInlineBlank d = true → collapseFrom true (d :: rest) ≠ d :: rest := by
        intro d blank
        rw [collapseFrom, if_pos blank, if_pos rfl]
        exact collapseFrom_true_ne d rest
      by_cases tab : c = '\t'
      · have changed : collapseFrom inRun (c :: rest) ≠ c :: rest := by
          rw [tab]
          cases inRun with
          | true => exact run '\t' rfl
          | false => simp [collapseFrom, Text.isInlineBlank]
        exact iff_of_false changed fun kept => kept.1 (tab ▸ List.mem_cons_self)
      by_cases space : c = ' '
      · rw [space]
        cases inRun with
        | true => exact iff_of_false (run ' ' rfl) fun kept => kept.2.2 rfl rfl
        | false =>
            have first : collapseFrom false (' ' :: rest) = ' ' :: collapseFrom true rest := rfl
            rw [first, List.cons.injEq, ih, spacesApart_cons]
            simp [and_comm]
      · have kept : collapseFrom inRun (c :: rest) = c :: collapseFrom false rest := by
          simp [collapseFrom, Text.isInlineBlank, tab, space]
        rw [kept, List.cons.injEq, ih, spacesApart_cons]
        simp [space, Ne.symm tab]

theorem tidyMathLine_eq_self
    : tidyMathLine line = line ↔ '\t' ∉ line ∧ SpacesApart line ∧ NoBlankEnd line := by
  constructor
  · intro same
    have collapsed := collapse_tidyMathLine line
    rw [same] at collapsed
    obtain ⟨noTab, spacesApart, -⟩ := collapseFrom_eq_self.mp collapsed
    refine ⟨noTab, spacesApart, fun c last => ?_⟩
    rw [← same] at last
    exact Chars.getLast?_dropEndWhile last
  · intro ⟨noTab, spacesApart, noBlankEnd⟩
    have collapsed : collapse line = line := collapseFrom_eq_self.mpr ⟨noTab, spacesApart, nofun⟩
    rw [tidyMathLine, collapsed]
    exact Chars.dropEndWhile_of_getLast? noBlankEnd

/-- A tidied line is in its normal form. -/
theorem tidyMathLine_form (line : Chars)
    : '\t' ∉ tidyMathLine line
      ∧ SpacesApart (tidyMathLine line)
      ∧ NoBlankEnd (tidyMathLine line) :=
  tidyMathLine_eq_self.mp (tidyMathLine_tidyMathLine line)

-----------------------------------------------------------------------------------------
-- Lines that are joined
-----------------------------------------------------------------------------------------

/-- A line feed between lines keeps the spaces of both apart. -/
theorem spacesApart_join (apart : ∀ line ∈ lines, SpacesApart line)
    : SpacesApart (Chars.join ['\n'] lines) := by
  fun_induction Chars.join ['\n'] lines with
  | case1 => exact .nil
  | case2 line => exact apart line List.mem_cons_self
  | case3 line rest _ ih =>
      have head := apart line List.mem_cons_self
      have tail := ih fun l held => apart l (List.mem_cons_of_mem line held)
      refine List.isChain_append.mpr ⟨?_, tail, ?_⟩
      · exact List.isChain_append.mpr ⟨head, .singleton _, by simp⟩
      · simp

/-- Where only line feeds end lines, a text is cut at its line feeds, unless one of them is its end. -/
theorem boundaryLines_eq_lines (feeds : ∀ c ∈ t, Text.isLineBoundary c = true → c = '\n')
    (noBlankEnd : NoBlankEnd t) (filled : t ≠ [])
    : Chars.boundaryLines t = Chars.lines t := by
  have single : ∀ line ∈ Chars.lines t, OneLine line := by
    intro line held c inside
    cases ends : Text.isLineBoundary c with
    | false => rfl
    | true =>
        have within := (Chars.infix_of_mem_lines held).subset inside
        exact absurd (feeds c within ends ▸ inside) (Chars.not_mem_of_mem_splitAt held)
  have lastFilled : ∀ line ∈ (Chars.lines t).getLast?, line ≠ [] := by
    intro line last empty
    obtain ⟨earlier, cut⟩ := List.getLast?_eq_some_iff.mp last
    have whole := Chars.join_lines t
    rw [cut, empty, Chars.join_concat, List.append_nil] at whole
    rcases earlier.eq_nil_or_concat' with rfl | ⟨before, line', rfl⟩
    · exact filled whole.symm
    · have ended : t.getLast? = some '\n' := by
        rw [← whole, List.flatMap_append, List.flatMap_singleton, ← List.append_assoc,
          List.getLast?_concat]
      exact absurd (noBlankEnd '\n' ended) (by decide)
  have cut := boundaryLines_join single lastFilled
  rwa [Chars.join_lines] at cut

/-- Tidied math source is in its normal form. -/
theorem tidyForm_tidyMath (s : Chars)
    : TidyForm (tidyMath s) where
  noBlankStart c first := Chars.head?_trim (by rwa [← strip_tidyMath s] at first)
  noBlankEnd c last := Chars.getLast?_trim (by rwa [← strip_tidyMath s] at last)
  noTab := by
    intro held
    rcases Chars.mem_join held with feed | ⟨line, inside, held⟩
    · exact absurd feed (by decide)
    · obtain ⟨source, -, rfl⟩ := List.mem_map.mp inside
      exact (tidyMathLine_form source).1 held
  spacesApart := by
    refine spacesApart_join fun line held => ?_
    obtain ⟨source, -, rfl⟩ := List.mem_map.mp held
    exact (tidyMathLine_form source).2.1
  lines := by
    intro line held
    rw [boundaryLines_tidyMath] at held
    obtain ⟨source, -, rfl⟩ := List.mem_map.mp held
    exact (tidyMathLine_form source).2.2
  feeds := by
    intro c held ends
    rcases Chars.mem_join held with feed | ⟨line, inside, held⟩
    · exact List.mem_singleton.mp feed
    · obtain ⟨source, single, rfl⟩ := List.mem_map.mp inside
      have within := (oneLine_of_mem_boundaryLines single).tidyMathLine c held
      rw [ends] at within
      cases within

/-- Math source in its normal form is left as it is. -/
theorem TidyForm.tidyMath_eq (form : TidyForm t)
    : tidyMath t = t := by
  by_cases empty : t = []
  · rw [empty]
    rfl
  have stripped : Chars.strip t = t := Chars.trim_of_edges form.noBlankStart form.noBlankEnd
  have cut := boundaryLines_eq_lines form.feeds form.noBlankEnd empty
  have settled : (Chars.lines t).map tidyMathLine = Chars.lines t := by
    refine (List.map_congr_left fun line held => ?_).trans (List.map_id _)
    have inside := Chars.infix_of_mem_lines held
    have noTab : '\t' ∉ line := fun tab => form.noTab (inside.subset tab)
    exact tidyMathLine_eq_self.mpr
      ⟨noTab, form.spacesApart.infix inside, form.lines line (cut ▸ held)⟩
  rw [tidyMath, stripped, cut, settled, Chars.join_lines]

/-- Tidying leaves exactly the sources in normal form as they are. -/
theorem tidyMath_eq_self
    : tidyMath t = t ↔ TidyForm t :=
  ⟨fun same => same ▸ tidyForm_tidyMath t, TidyForm.tidyMath_eq⟩

/-- Tidying brings math source into its normal form at once. It takes away and adds nothing but blanks, and it
keeps the number of lines, whatever ends them; the form itself is what tidying leaves as it is. -/
theorem tidyMath_normalizes (s : Chars)
    : tidyMath (tidyMath s) = tidyMath s
      ∧ TidyForm (tidyMath s)
      ∧ (∀ t, tidyMath t = t ↔ TidyForm t)
      ∧ dense (tidyMath s) = dense s
      ∧ (Chars.boundaryLines (tidyMath s)).length
          = (Chars.boundaryLines (Chars.strip s)).length := by
  refine ⟨tidyMath_tidyMath s, tidyForm_tidyMath s, fun t => tidyMath_eq_self, dense_tidyMath s, ?_⟩
  rw [boundaryLines_tidyMath, List.length_map]

/-- A line separator, a pair of line ends and a form feed each become one line feed. -/
example
    : tidyMath "\t a\t b \u2028\u3000 c\r\n\x0cd\u3000".toList = "a b\n\u3000 c\n\nd".toList := by
  decide

end MixedScript.Spacing
