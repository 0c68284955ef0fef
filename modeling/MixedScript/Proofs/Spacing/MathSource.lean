import MixedScript.Proofs.Spacing.Visible

/-! Tidied math source is tidy. Its lines are the tidied lines of the source, the first starts and the
last ends with what is not blank, so it is cut into the same lines again. -/

namespace MixedScript.Spacing

variable {s t line : Chars}

-----------------------------------------------------------------------------------------
-- Lines
-----------------------------------------------------------------------------------------

theorem length_collapseFrom_le (inRun : Bool) (s : Chars)
    : (collapseFrom inRun s).length ≤ s.length := by
  induction s generalizing inRun with
  | nil => exact Nat.le_refl 0
  | cons c rest ih =>
      have inside := ih true
      have after := ih false
      unfold collapseFrom
      split
      · split <;> simp only [List.length_cons] <;> omega
      · simp only [List.length_cons]
        omega

theorem collapseFrom_collapseFrom (inRun : Bool) (s : Chars)
    : collapseFrom inRun (collapseFrom inRun s) = collapseFrom inRun s := by
  induction s generalizing inRun with
  | nil => rfl
  | cons c rest ih =>
      have space : Text.isInlineBlank ' ' = true := rfl
      cases blank : Text.isInlineBlank c <;> cases inRun <;>
        simp [collapseFrom, blank, space, ih]

/-- What a line without runs of blanks starts with has none either. -/
theorem collapseFrom_of_append {inRun : Bool} (h : collapseFrom inRun (s ++ t) = s ++ t)
    : collapseFrom inRun s = s := by
  induction s generalizing inRun with
  | nil => rfl
  | cons c rest ih =>
      rw [List.cons_append] at h
      unfold collapseFrom at h ⊢
      split at h
      · next blank =>
          cases inRun with
          | true =>
              -- A blank after a blank would have been dropped.
              have shorter := length_collapseFrom_le true (rest ++ t)
              simp only [if_true] at h
              rw [h, List.length_cons] at shorter
              omega
          | false =>
              simp only [Bool.false_eq_true, if_false, List.cons.injEq] at h
              obtain ⟨rfl, h⟩ := h
              simp [blank, ih h]
      · simp only [List.cons.injEq, true_and] at h
        simp_all

theorem stripEnd_prefix (s : Chars)
    : ∃ z, s = Chars.stripEnd s ++ z := by
  refine ⟨s.rtakeWhile Text.isBlank, ?_⟩
  rw [Chars.stripEnd, Chars.dropEndWhile_eq_rdropWhile, List.rdropWhile_append_rtakeWhile]

theorem collapse_tidyMathLine (line : Chars)
    : collapse (tidyMathLine line) = tidyMathLine line := by
  obtain ⟨z, whole⟩ := stripEnd_prefix (collapse line)
  have again := collapseFrom_collapseFrom false line
  rw [show collapseFrom false line = tidyMathLine line ++ z from whole] at again
  exact collapseFrom_of_append again

theorem tidyMathLine_tidyMathLine (line : Chars)
    : tidyMathLine (tidyMathLine line) = tidyMathLine line := by
  rw [tidyMathLine, collapse_tidyMathLine]
  simp only [tidyMathLine, Chars.stripEnd, Chars.dropEndWhile_eq_rdropWhile, List.rdropWhile_idempotent]

/-- Whether a line holds no line boundary. -/
def OneLine (line : Chars) : Prop :=
  ∀ c ∈ line, Text.isLineBoundary c = false

theorem mem_collapseFrom {inRun : Bool} {c : Char} (mem : c ∈ collapseFrom inRun s)
    : c = ' ' ∨ c ∈ s := by
  induction s generalizing inRun with
  | nil => cases mem
  | cons first rest ih =>
      unfold collapseFrom at mem
      split at mem
      · split at mem
        · exact (ih mem).imp_right (List.mem_cons_of_mem _)
        · rcases List.mem_cons.mp mem with rfl | mem
          · exact .inl rfl
          · exact (ih mem).imp_right (List.mem_cons_of_mem _)
      · rcases List.mem_cons.mp mem with rfl | mem
        · exact .inr List.mem_cons_self
        · exact (ih mem).imp_right (List.mem_cons_of_mem _)

theorem OneLine.tidyMathLine (h : OneLine line)
    : OneLine (tidyMathLine line) := by
  intro c mem
  obtain ⟨z, whole⟩ := stripEnd_prefix (collapse line)
  have inside : c ∈ collapse line := by
    rw [whole]
    exact List.mem_append_left z mem
  rcases mem_collapseFrom inside with rfl | mem
  · rfl
  · exact h c mem

theorem oneLine_of_mem_boundaryLines (mem : line ∈ Chars.boundaryLines s)
    : OneLine line := by
  obtain ⟨whole, -, rfl⟩ := List.mem_map.mp mem
  intro c inside
  simpa using (List.mem_filter.mp inside).2

-----------------------------------------------------------------------------------------
-- Cutting joined lines
-----------------------------------------------------------------------------------------

theorem linesWithEnds_cons {c : Char} (inside : Text.isLineBoundary c = false) (rest : Chars)
    : Chars.linesWithEnds (c :: rest)
      = match Chars.linesWithEnds rest with
        | [] => [[c]]
        | line :: later => (c :: line) :: later := by
  have noReturn : c ≠ '\r' := by
    rintro rfl
    cases inside
  rw [Chars.linesWithEnds]
  · cases Chars.linesWithEnds rest <;> simp only [inside, Bool.false_eq_true, if_false]
  · exact fun _ same => absurd same noReturn

/-- A line that a line feed ends is the first. -/
theorem boundaryLines_append (h : OneLine line) (rest : Chars)
    : Chars.boundaryLines (line ++ '\n' :: rest) = line :: Chars.boundaryLines rest := by
  have cut : Chars.linesWithEnds (line ++ '\n' :: rest)
      = (line ++ ['\n']) :: Chars.linesWithEnds rest := by
    induction line with
    | nil => rfl
    | cons c line ih =>
        have inside := h c List.mem_cons_self
        have tail := ih fun d mem => h d (List.mem_cons_of_mem _ mem)
        rw [List.cons_append, linesWithEnds_cons inside, tail]
        rfl
  have kept : line.filter (fun c => !Text.isLineBoundary c) = line :=
    List.filter_eq_self.mpr fun c mem => by simp [h c mem]
  have ended : ['\n'].filter (fun c => !Text.isLineBoundary c) = [] := rfl
  rw [Chars.boundaryLines, cut, List.map_cons, List.filter_append, kept, ended, List.append_nil]
  rfl

theorem boundaryLines_single (h : OneLine line) (filled : line ≠ [])
    : Chars.boundaryLines line = [line] := by
  have cut : Chars.linesWithEnds line = [line] := by
    induction line with
    | nil => contradiction
    | cons c line ih =>
        rw [linesWithEnds_cons (h c List.mem_cons_self)]
        cases line with
        | nil => rfl
        | cons d line =>
            rw [ih (fun e mem => h e (List.mem_cons_of_mem _ mem)) (List.cons_ne_nil _ _)]
  have kept : line.filter (fun c => !Text.isLineBoundary c) = line :=
    List.filter_eq_self.mpr fun c mem => by simp [h c mem]
  rw [Chars.boundaryLines, cut, List.map_singleton, kept]

/-- Lines that are joined are cut again, if the last is not empty. -/
theorem boundaryLines_join {lines : List Chars} (h : ∀ line ∈ lines, OneLine line)
    (filled : ∀ line ∈ lines.getLast?, line ≠ [])
    : Chars.boundaryLines (Chars.join ['\n'] lines) = lines := by
  induction lines with
  | nil => rfl
  | cons line rest ih =>
      cases rest with
      | nil => exact boundaryLines_single (h line List.mem_cons_self) (filled line rfl)
      | cons next rest =>
          have shape : Chars.join ['\n'] (line :: next :: rest)
              = line ++ '\n' :: Chars.join ['\n'] (next :: rest) := by
            simp [Chars.join]
          rw [shape, boundaryLines_append (h line List.mem_cons_self)]
          exact congrArg (line :: ·) (ih (fun l mem => h l (List.mem_cons_of_mem _ mem)) filled)

-----------------------------------------------------------------------------------------
-- Edges
-----------------------------------------------------------------------------------------

/-- A text that starts with what is not blank. -/
def StartsSolid (s : Chars) : Prop :=
  ∃ first rest, s = first :: rest ∧ Text.isBlank first = false

/-- A text that ends with what is not blank. -/
def EndsSolid (s : Chars) : Prop :=
  ∃ before last, s = before ++ [last] ∧ Text.isBlank last = false

theorem isInlineBlank_of_not_isBlank {c : Char} (h : Text.isBlank c = false)
    : Text.isInlineBlank c = false := by
  cases blank : Text.isInlineBlank c with
  | false => rfl
  | true => rw [isBlank_of_isInlineBlank blank] at h; cases h

theorem isLineBoundary_of_not_isBlank {c : Char} (h : Text.isBlank c = false)
    : Text.isLineBoundary c = false := by
  cases ends : Text.isLineBoundary c with
  | false => rfl
  | true => rw [isBlank_of_isLineBoundary ends] at h; cases h

theorem strip_of_solid (starts : StartsSolid s) (ends : EndsSolid s)
    : Chars.strip s = s := by
  obtain ⟨first, rest, begun, hfirst⟩ := starts
  obtain ⟨before, last, ended, hlast⟩ := ends
  rw [Chars.strip, Chars.trim, Chars.dropEndWhile_eq_rdropWhile, begun,
    List.dropWhile_cons_of_neg (by simp [hfirst]), ← begun, ended]
  exact List.rdropWhile_concat_neg _ _ _ (by simp [hlast])

/-- A stripped text is empty or starts and ends with what is not blank. -/
theorem strip_cases (s : Chars)
    : Chars.strip s = [] ∨ StartsSolid (Chars.strip s) ∧ EndsSolid (Chars.strip s) := by
  by_cases empty : Chars.strip s = []
  · exact .inl empty
  · right
    rw [Chars.strip, Chars.trim, Chars.dropEndWhile_eq_rdropWhile] at empty ⊢
    constructor
    · obtain ⟨first, rest, shape⟩ := List.exists_cons_of_ne_nil empty
      obtain ⟨z, whole⟩ := List.rdropWhile_prefix Text.isBlank (l := s.dropWhile Text.isBlank)
      have starts := List.head?_dropWhile_not Text.isBlank s
      rw [shape, List.cons_append] at whole
      rw [← whole] at starts
      exact ⟨first, rest, shape, starts⟩
    · exact ⟨_, _, (List.dropLast_append_getLast empty).symm,
        by simpa using List.rdropWhile_last_not _ _ empty⟩

theorem StartsSolid.tidyMathLine (h : StartsSolid line)
    : StartsSolid (tidyMathLine line) := by
  obtain ⟨first, rest, rfl, hfirst⟩ := h
  have kept : Text.isInlineBlank first = false := isInlineBlank_of_not_isBlank hfirst
  rw [Spacing.tidyMathLine, collapse, collapseFrom, if_neg (by simp [kept]), Chars.stripEnd,
    Chars.dropEndWhile]
  split
  · exact ⟨first, [], by simp [hfirst], hfirst⟩
  · exact ⟨first, _, rfl, hfirst⟩

theorem EndsSolid.tidyMathLine (h : EndsSolid line)
    : EndsSolid (tidyMathLine line) := by
  obtain ⟨before, last, rfl, hlast⟩ := h
  have kept : Text.isInlineBlank last = false := isInlineBlank_of_not_isBlank hlast
  have ended : ∀ inRun, ∃ w, collapseFrom inRun (before ++ [last]) = w ++ [last] := by
    induction before with
    | nil => exact fun inRun => ⟨[], by simp [collapseFrom, kept]⟩
    | cons c before ih =>
        intro inRun
        obtain ⟨inside, hinside⟩ := ih true
        obtain ⟨after, hafter⟩ := ih false
        rw [List.cons_append, collapseFrom]
        split
        · split
          · exact ⟨inside, hinside⟩
          · exact ⟨' ' :: inside, congrArg (' ' :: ·) hinside⟩
        · exact ⟨c :: after, congrArg (c :: ·) hafter⟩
  obtain ⟨w, collapsed⟩ := ended false
  refine ⟨w, last, ?_, hlast⟩
  rw [Spacing.tidyMathLine, collapse, collapsed, Chars.stripEnd, Chars.dropEndWhile_eq_rdropWhile]
  exact List.rdropWhile_concat_neg _ _ _ (by simp [hlast])

/-- The first line of a text that starts with what is not blank does so, too. -/
theorem StartsSolid.lines (h : StartsSolid s)
    : ∃ line later, Chars.boundaryLines s = line :: later ∧ StartsSolid line := by
  obtain ⟨first, rest, rfl, hfirst⟩ := h
  have inside := isLineBoundary_of_not_isBlank hfirst
  have kept : ∀ line : Chars, StartsSolid
      ((first :: line).filter fun c => !Text.isLineBoundary c) :=
    fun line => ⟨first, _, List.filter_cons_of_pos (by simp [inside]), hfirst⟩
  rw [Chars.boundaryLines, linesWithEnds_cons inside]
  split
  · exact ⟨_, _, rfl, kept []⟩
  · exact ⟨_, _, rfl, kept _⟩

theorem ne_nil_of_mem_linesWithEnds (mem : line ∈ Chars.linesWithEnds s)
    : line ≠ [] := by
  induction s using Chars.linesWithEnds.induct generalizing line with
  | case1 => cases mem
  | case2 rest ih =>
      rcases List.mem_cons.mp mem with rfl | mem
      · exact List.cons_ne_nil _ _
      · exact ih mem
  | case3 c rest _ ends ih =>
      simp only [Chars.linesWithEnds, ends, if_true] at mem
      rcases List.mem_cons.mp mem with rfl | mem
      · exact List.cons_ne_nil _ _
      · exact ih mem
  | case4 c rest _ goes empty ih => simp_all [Chars.linesWithEnds]
  | case5 c rest _ goes first later shape ih =>
      simp only [Chars.linesWithEnds, goes, shape] at mem
      rcases List.mem_cons.mp mem with rfl | mem
      · exact List.cons_ne_nil _ _
      · exact ih (shape ▸ List.mem_cons_of_mem _ mem)

/-- The last line of a text that ends with what is not blank does so, too. -/
theorem EndsSolid.lines (h : EndsSolid s)
    : ∃ earlier line, Chars.boundaryLines s = earlier ++ [line] ∧ EndsSolid line := by
  obtain ⟨before, last, rfl, hlast⟩ := h
  have inside := isLineBoundary_of_not_isBlank hlast
  have whole := linesWithEnds_flatten (before ++ [last])
  have some : Chars.linesWithEnds (before ++ [last]) ≠ [] := by
    intro none
    rw [none] at whole
    simp at whole
  -- The lines make up the text, and the last of them is not empty: it ends as the text does.
  obtain ⟨earlier, line, cut⟩ : ∃ earlier line,
      Chars.linesWithEnds (before ++ [last]) = earlier ++ [line] :=
    ⟨_, _, (List.dropLast_append_getLast some).symm⟩
  have filled : line ≠ [] :=
    ne_nil_of_mem_linesWithEnds (cut ▸ List.mem_append_right _ List.mem_cons_self)
  obtain ⟨w, c, rfl⟩ : ∃ w c, line = w ++ [c] :=
    ⟨_, _, (List.dropLast_append_getLast filled).symm⟩
  have same : c = last := by
    rw [cut, List.flatten_append, List.flatten_singleton, ← List.append_assoc] at whole
    exact (List.append_inj' whole rfl).2 |> List.singleton_inj.mp
  subst same
  have kept : [c].filter (fun c => !Text.isLineBoundary c) = [c] :=
    List.filter_cons_of_pos (by simp [inside])
  refine ⟨_, _, by rw [Chars.boundaryLines, cut, List.map_append, List.map_singleton], ?_⟩
  exact ⟨_, c, by rw [List.filter_append, kept], hlast⟩

theorem StartsSolid.join (h : StartsSolid line) (later : List Chars)
    : StartsSolid (Chars.join ['\n'] (line :: later)) := by
  obtain ⟨first, rest, rfl, hfirst⟩ := h
  cases later with
  | nil => exact ⟨first, rest, rfl, hfirst⟩
  | cons => exact ⟨first, _, rfl, hfirst⟩

theorem EndsSolid.join (h : EndsSolid line) (earlier : List Chars)
    : EndsSolid (Chars.join ['\n'] (earlier ++ [line])) := by
  induction earlier with
  | nil => exact h
  | cons first earlier ih =>
      obtain ⟨before, last, ends, hlast⟩ := ih
      obtain ⟨next, rest, shape⟩ : ∃ next rest, earlier ++ [line] = next :: rest :=
        List.exists_cons_of_ne_nil (by simp)
      refine ⟨first ++ ['\n'] ++ before, last, ?_, hlast⟩
      have step : Chars.join ['\n'] (first :: next :: rest)
          = first ++ ['\n'] ++ Chars.join ['\n'] (next :: rest) := by
        simp [Chars.join]
      rw [List.cons_append, shape, step, ← shape, ends]
      simp only [List.append_assoc]

-----------------------------------------------------------------------------------------
-- Tidying again
-----------------------------------------------------------------------------------------

/-- Tidied math source has nothing blank at its ends, and its lines are the tidied lines of the source. -/
theorem strip_and_cut_tidyMath (s : Chars)
    : Chars.strip (tidyMath s) = tidyMath s
      ∧ Chars.boundaryLines (tidyMath s) = (Chars.boundaryLines (Chars.strip s)).map tidyMathLine := by
  rcases strip_cases s with empty | ⟨starts, ends⟩
  · have nothing : tidyMath s = [] := by rw [tidyMath, empty]; rfl
    rw [nothing, empty]
    exact ⟨rfl, rfl⟩
  · obtain ⟨first, later, begun, starts⟩ := starts.lines
    obtain ⟨earlier, last, ended, ends⟩ := ends.lines
    have begunTidy : tidyMath s = Chars.join ['\n'] (tidyMathLine first :: later.map tidyMathLine) := by
      rw [tidyMath, begun, List.map_cons]
    have endedTidy : tidyMath s
        = Chars.join ['\n'] (earlier.map tidyMathLine ++ [tidyMathLine last]) := by
      rw [tidyMath, ended, List.map_append, List.map_singleton]
    refine ⟨strip_of_solid (begunTidy ▸ starts.tidyMathLine.join _)
      (endedTidy ▸ ends.tidyMathLine.join _), ?_⟩
    refine boundaryLines_join (fun line mem => ?_) (fun line mem => ?_)
    · obtain ⟨source, inside, rfl⟩ := List.mem_map.mp mem
      exact (oneLine_of_mem_boundaryLines inside).tidyMathLine
    · rw [ended, List.map_append, List.map_singleton, List.getLast?_concat] at mem
      obtain rfl := Option.some.inj mem
      obtain ⟨before, c, shape, -⟩ := ends.tidyMathLine
      rw [shape]
      exact List.append_ne_nil_of_right_ne_nil _ (List.cons_ne_nil _ _)

theorem strip_tidyMath (s : Chars)
    : Chars.strip (tidyMath s) = tidyMath s :=
  (strip_and_cut_tidyMath s).1

theorem boundaryLines_tidyMath (s : Chars)
    : Chars.boundaryLines (tidyMath s) = (Chars.boundaryLines (Chars.strip s)).map tidyMathLine :=
  (strip_and_cut_tidyMath s).2

/-- Tidied math source is tidy. -/
theorem tidyMath_tidyMath (s : Chars)
    : tidyMath (tidyMath s) = tidyMath s := by
  have settled : tidyMathLine ∘ tidyMathLine = tidyMathLine := funext tidyMathLine_tidyMathLine
  rw [tidyMath, strip_tidyMath, boundaryLines_tidyMath, List.map_map, settled]
  rfl

end MixedScript.Spacing
