import MixedScript.Proofs.Markdown.FrontMatter

/-! The line that a text starts with. Front matter shows there: a written text has some only if that line
is a rule, and cleaning a text up leaves the line as it is as long as something follows it. -/

namespace MixedScript.Markdown

variable {cs more line : Chars} {f : FrontMatter}

/-- The line that a text starts with, whichever way it ends. -/
def topLine (cs : Chars) : Chars :=
  cs.takeWhile (fun c => c != '\n' && c != '\r')

/-- A text that starts with a rule. -/
def StartsWithRule (cs : Chars) : Prop :=
  IsRule (topLine cs)

theorem topLine_append_line (single : ∀ c ∈ line, c ≠ '\n' ∧ c ≠ '\r') (more : Chars)
    : topLine (line ++ '\n' :: more) = line := by
  have inside : ∀ c ∈ line, (c != '\n' && c != '\r') = true := by simpa using single
  rw [topLine, List.takeWhile_append_of_pos inside]
  simp

theorem topLine_append (behind : more = [] ∨ more.head? = some '\n')
    : topLine (cs ++ more) = topLine cs := by
  induction cs with
  | nil =>
      rcases behind with rfl | starts
      · rfl
      · obtain ⟨later, rfl⟩ := List.head?_eq_some_iff.mp starts
        simp [topLine]
  | cons c cs ih =>
      unfold topLine at *
      simp only [List.cons_append, List.takeWhile_cons, ih]

theorem topLine_start (cs : Chars)
    : topLine cs <+: cs :=
  List.takeWhile_prefix _

theorem topLine_unifyLineEnds (cs : Chars)
    : topLine (Chars.unifyLineEnds cs) = topLine cs := by
  unfold topLine
  fun_induction Chars.unifyLineEnds cs with
  | case1 => rfl
  | case2 rest ih => simp
  | case3 rest _ ih => simp
  | case4 c rest _ _ ih => simp only [List.takeWhile_cons, ih]

theorem IsRule.single (rule : IsRule line)
    : ∀ c ∈ line, c ≠ '\n' ∧ c ≠ '\r' := by
  obtain ⟨blanks, rfl, blank⟩ := rule
  have inside : ∀ c ∈ blanks, c ≠ '\n' ∧ c ≠ '\r' := by
    intro c held
    have := blank c held
    constructor <;> rintro rfl <;> simp [Text.isInlineBlank] at this
  simpa using inside

theorem IsRule.dashes (rule : IsRule line)
    : ['-', '-'] <+: line := by
  obtain ⟨blanks, rfl, -⟩ := rule
  exact ⟨'-' :: blanks, rfl⟩

theorem StartsWithRule.dashes (rule : StartsWithRule cs)
    : ['-', '-'] <+: cs :=
  (IsRule.dashes rule).trans (topLine_start cs)

theorem return_not_mem_cleanUp (cs : Chars)
    : '\r' ∉ cleanUp cs := by
  unfold cleanUp
  split
  · simp
  · intro held
    rcases List.mem_append.mp held with held | held
    · exact Chars.return_not_mem_unifyLineEnds _ (Chars.mem_of_mem_dropEndWhile held)
    · simp at held

/-- Before the line feed at its end, what has been cleaned up is the start of the text. -/
theorem cleanUp_cases (cs : Chars)
    : cleanUp cs = []
      ∨ ∃ kept, cleanUp cs = kept ++ ['\n'] ∧ kept <+: Chars.unifyLineEnds cs := by
  unfold cleanUp
  split
  · exact .inl rfl
  · refine .inr ⟨_, rfl, ?_⟩
    rw [Chars.stripEnd, Chars.dropEndWhile_eq_rdropWhile]
    exact List.rdropWhile_prefix ..

/-- A text without carriage returns that holds front matter starts with a rule that something
follows. -/
theorem rule_of_split? (h : FrontMatter.split? cs = some f) (plain : '\r' ∉ cs)
    : ∃ rule later, IsRule rule ∧ later ≠ [] ∧ cs = rule ++ '\n' :: later := by
  obtain ⟨-, start, closing, opened, parts, closed⟩ := FrontMatter.split?_eq_some h
  obtain ⟨rule, ending, rfl, isRule, ends⟩ := afterFenceLine?_eq_some opened
  have follows : start ≠ [] := by
    obtain ⟨last, _, rfl, ⟨_, rfl, -⟩, -⟩ := afterFenceLine?_eq_some closed
    simp [parts]
  rcases ends with rfl | rfl | ⟨never, -⟩
  · exact ⟨rule, start, isRule, follows, by simp⟩
  · simp at plain
  · cases never

/-- Where what is written for a text holds front matter, the text starts with a rule. -/
theorem startsWithRule_of_split? (h : FrontMatter.split? (cleanUp cs) = some f)
    : StartsWithRule cs := by
  obtain ⟨rule, later, isRule, follows, whole⟩ := rule_of_split? h (return_not_mem_cleanUp cs)
  -- As something follows the rule, what has been cleaned away at the end lies behind it.
  obtain ⟨more, last, rfl⟩ := (List.eq_nil_or_concat later).resolve_left follows
  rcases cleanUp_cases cs with empty | ⟨kept, ends, begins⟩
  · simp [whole] at empty
  · have parts : (rule ++ '\n' :: more) ++ [last] = kept ++ ['\n'] := by
      rw [← ends, whole]
      simp
    obtain ⟨rfl, -⟩ := List.append_inj' parts rfl
    obtain ⟨rest, unified⟩ := begins
    have line : topLine cs = rule := by
      rw [← topLine_unifyLineEnds, ← unified, List.append_assoc, List.cons_append,
        topLine_append_line isRule.single]
    rw [StartsWithRule, line]
    exact isRule

end MixedScript.Markdown
