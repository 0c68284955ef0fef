import MixedScript.Markdown.Outline.Table
import MixedScript.Markdown.Writer.Block
import MixedScript.Proofs.Text.Chars
import MixedScript.Proofs.Text.Lines

/-! Pipes that end cells. A backslash keeps a pipe in its cell; whether another backslash may keep it from
doing so is left open here, since tables are read one way and spoken of in the other. -/

namespace MixedScript.Markdown

/-- When a backslash right before a pipe keeps it in its cell. -/
inductive PipeRule where
  /-- Always. -/
  | adjacent
  /-- When the backslashes before the pipe are odd in number, as tables are read. -/
  | odd
  deriving DecidableEq, Repr

/-- Whether a pipe would be kept in its cell behind one more character. -/
def PipeRule.guarding (rule : PipeRule) (guarded : Bool) (c : Char) : Bool :=
  c == '\\' && !(rule == .odd && guarded)

/-- The number of pipes of a text that end a cell, given whether the first character is kept from it. -/
def openPipes (rule : PipeRule) (guarded : Bool) : Chars → Nat
  | [] => 0
  | c :: rest =>
      (if c == '|' && !guarded then 1 else 0) + openPipes rule (rule.guarding guarded c) rest

/-- Whether a pipe would be kept in its cell behind a text. -/
def PipeRule.guardedAfter (rule : PipeRule) (guarded : Bool) (cs : Chars) : Bool :=
  cs.foldl rule.guarding guarded

/-- A character that neither ends a cell nor keeps another one from it. -/
def Neutral (c : Char) : Prop :=
  c ≠ '|' ∧ c ≠ '\\'

instance (c : Char) : Decidable (Neutral c) :=
  inferInstanceAs (Decidable (_ ∧ _))

/-- Neutral characters, at least one. -/
structure NeutralRun (s : Chars) : Prop where
  filled : s ≠ []
  neutral : ∀ c ∈ s, Neutral c

instance (s : Chars) : Decidable (NeutralRun s) :=
  decidable_of_iff (s ≠ [] ∧ s.all (fun c => decide (Neutral c)) = true)
    ⟨fun h => ⟨h.1, by simpa using h.2⟩, fun h => ⟨h.filled, by simpa using h.neutral⟩⟩

variable {rule : PipeRule} {guarded : Bool} {c : Char} {s t : Chars} {cells : List Chars}

theorem guarding_neutral (neutral : Neutral c)
    : rule.guarding guarded c = false := by
  simp [PipeRule.guarding, neutral.2]

theorem openPipes_append (rule : PipeRule) (guarded : Bool) (s t : Chars)
    : openPipes rule guarded (s ++ t)
      = openPipes rule guarded s + openPipes rule (rule.guardedAfter guarded s) t := by
  induction s generalizing guarded with
  | nil => exact (Nat.zero_add _).symm
  | cons c s ih =>
      rw [List.cons_append, openPipes, openPipes, ih, Nat.add_assoc]
      rfl

theorem openPipes_cons_neutral (neutral : Neutral c) (guarded : Bool) (s : Chars)
    : openPipes rule guarded (c :: s) = openPipes rule false s := by
  rw [openPipes, guarding_neutral neutral]
  simp [neutral.1]

/-- A text is cut in two where a neutral character stands. -/
theorem openPipes_append_neutral (neutral : Neutral c) (guarded : Bool) (s t : Chars)
    : openPipes rule guarded (s ++ c :: t) = openPipes rule guarded s + openPipes rule false t := by
  rw [openPipes_append, openPipes_cons_neutral neutral]

theorem guardedAfter_concat (neutral : Neutral c) (guarded : Bool) (s : Chars)
    : rule.guardedAfter guarded (s ++ [c]) = false := by
  rw [PipeRule.guardedAfter, List.foldl_append]
  exact guarding_neutral neutral

theorem guardedAfter_neutral (neutral : ∀ c ∈ s, Neutral c)
    : rule.guardedAfter false s = false := by
  rcases s.eq_nil_or_concat' with rfl | ⟨start, last, rfl⟩
  · rfl
  · exact guardedAfter_concat (neutral last (by simp)) false start

theorem openPipes_neutral (neutral : ∀ c ∈ s, Neutral c) (guarded : Bool)
    : openPipes rule guarded s = 0 := by
  induction s generalizing guarded with
  | nil => rfl
  | cons c s ih =>
      obtain ⟨here, later⟩ := List.forall_mem_cons.mp neutral
      rw [openPipes_cons_neutral here, ih later]

theorem openPipes_neutral_append (rule : PipeRule) (neutral : ∀ c ∈ s, Neutral c) (t : Chars)
    : openPipes rule false (s ++ t) = openPipes rule false t := by
  rw [openPipes_append, openPipes_neutral neutral, guardedAfter_neutral neutral, Nat.zero_add]

theorem openPipes_append_of_neutral (rule : PipeRule) (neutral : ∀ c ∈ t, Neutral c)
    (guarded : Bool) (s : Chars)
    : openPipes rule guarded (s ++ t) = openPipes rule guarded s := by
  rw [openPipes_append, openPipes_neutral neutral, Nat.add_zero]

theorem NeutralRun.append (run : NeutralRun s) (neutral : ∀ c ∈ t, Neutral c)
    : NeutralRun (s ++ t) :=
  ⟨List.append_ne_nil_of_left_ne_nil run.filled _, List.forall_mem_append.mpr ⟨run.neutral, neutral⟩⟩

theorem NeutralRun.behind (run : NeutralRun t) (neutral : ∀ c ∈ s, Neutral c)
    : NeutralRun (s ++ t) :=
  ⟨List.append_ne_nil_of_right_ne_nil _ run.filled, List.forall_mem_append.mpr ⟨neutral, run.neutral⟩⟩

/-- A text between neutral characters counts alike wherever it stands. -/
theorem openPipes_between {before behind : Chars} (rule : PipeRule) (opens : NeutralRun before)
    (closes : NeutralRun behind) (guarded : Bool) (s : Chars)
    : openPipes rule guarded (before ++ (s ++ behind)) = openPipes rule false s := by
  obtain ⟨first, more, rfl⟩ := List.exists_cons_of_ne_nil opens.filled
  obtain ⟨here, later⟩ := List.forall_mem_cons.mp opens.neutral
  rw [List.cons_append, openPipes_cons_neutral here, openPipes_neutral_append rule later,
    openPipes_append_of_neutral rule closes.neutral]

/-- What is trimmed at the edges of a text has no pipes. -/
theorem openPipes_dropEndWhile {p : Char → Bool} (neutral : ∀ c, p c = true → Neutral c)
    (guarded : Bool) (s : Chars)
    : openPipes rule guarded (Chars.dropEndWhile p s) = openPipes rule guarded s := by
  have split := List.rdropWhile_append_rtakeWhile (p := p) (l := s)
  rw [← Chars.dropEndWhile_eq_rdropWhile] at split
  have ended : ∀ c ∈ s.rtakeWhile p, Neutral c :=
    fun c held => neutral c (List.mem_rtakeWhile_imp held)
  have dropped := openPipes_append_of_neutral rule ended guarded (Chars.dropEndWhile p s)
  rw [split] at dropped
  exact dropped.symm

theorem openPipes_trim {p : Char → Bool} (neutral : ∀ c, p c = true → Neutral c) (s : Chars)
    : openPipes rule false (Chars.trim p s) = openPipes rule false s := by
  have started : ∀ c ∈ s.takeWhile p, Neutral c :=
    fun c held => neutral c (List.mem_takeWhile_imp held)
  have dropped := openPipes_neutral_append rule started (s.dropWhile p)
  rw [List.takeWhile_append_dropWhile] at dropped
  rw [Chars.trim, openPipes_dropEndWhile neutral, ← dropped]

theorem neutral_of_blank (blank : Text.isBlank c = true)
    : Neutral c := by
  constructor <;> rintro rfl <;> exact absurd blank (by decide)

theorem neutral_of_inlineBlank (blank : Text.isInlineBlank c = true)
    : Neutral c := by
  constructor <;> rintro rfl <;> exact absurd blank (by decide)

theorem openPipes_onOneLine (s : Chars)
    : openPipes rule false (onOneLine s) = openPipes rule false s := by
  have replaced : ∀ guarded,
      openPipes rule guarded (Chars.replaceChar '\n' [' '] s) = openPipes rule guarded s := by
    induction s with
    | nil => exact fun _ => rfl
    | cons c s ih =>
        intro guarded
        have step : Chars.replaceChar '\n' [' '] (c :: s)
            = (if c == '\n' then ' ' else c) :: Chars.replaceChar '\n' [' '] s := by
          unfold Chars.replaceChar
          rw [List.flatMap_cons]
          split <;> rfl
        rw [step]
        by_cases feed : c = '\n'
        · subst feed
          have neutral : Neutral ' ' ∧ Neutral '\n' := by decide
          rw [beq_self_eq_true, if_pos rfl, openPipes_cons_neutral neutral.1,
            openPipes_cons_neutral neutral.2, ih]
        · rw [beq_false_of_ne feed, if_neg Bool.false_ne_true, openPipes, openPipes, ih]
  rw [onOneLine, Chars.strip, openPipes_trim (fun _ => neutral_of_blank), replaced]

-----------------------------------------------------------------------------------------
-- Rows
-----------------------------------------------------------------------------------------

/-- The number of pipes of several texts that end a cell. -/
def openPipesOf (rule : PipeRule) : List Chars → Nat
  | [] => 0
  | text :: rest => openPipes rule false text + openPipesOf rule rest

/-- No pipe of several texts ends a cell. -/
def PipesKept (rule : PipeRule) (texts : List Chars) : Prop :=
  ∀ text ∈ texts, openPipes rule false text = 0

instance (rule : PipeRule) (texts : List Chars) : Decidable (PipesKept rule texts) :=
  inferInstanceAs (Decidable (∀ text ∈ texts, _))

theorem pipesKept_cons
    : PipesKept rule (s :: cells) ↔ openPipes rule false s = 0 ∧ PipesKept rule cells := by
  unfold PipesKept
  exact List.forall_mem_cons

theorem pipesKept_append {more : List Chars}
    : PipesKept rule (cells ++ more) ↔ PipesKept rule cells ∧ PipesKept rule more :=
  List.forall_mem_append

theorem pipesKept_self (rule : PipeRule) (s : Chars)
    : openPipes rule false s = 0 ↔ PipesKept rule [s] := by
  simp [PipesKept]

theorem openPipesOf_eq_zero
    : openPipesOf rule cells = 0 ↔ PipesKept rule cells := by
  induction cells with
  | nil => simp [openPipesOf, PipesKept]
  | cons cell rest ih =>
      rw [openPipesOf, Nat.add_eq_zero_iff, ih, pipesKept_cons]

theorem openPipes_join (rule : PipeRule) (filled : cells ≠ [])
    : openPipes rule false (Chars.join cellSeparator cells) + 1
      = cells.length + openPipesOf rule cells := by
  fun_induction Chars.join cellSeparator cells with
  | case1 => exact absurd rfl filled
  | case2 cell =>
      rw [openPipesOf, openPipesOf]
      exact Nat.add_comm _ 1
  | case3 cell rest more ih =>
      have blank : Neutral ' ' := by decide
      have separated : ∀ t, openPipes rule false (cell ++ cellSeparator ++ t)
          = openPipes rule false cell + (1 + openPipes rule false t) := by
        intro t
        rw [cellSeparator, List.append_assoc, List.cons_append, openPipes_append_neutral blank,
          List.cons_append, openPipes]
        simp [PipeRule.guarding, openPipes_cons_neutral blank]
      have rest := ih more
      rw [separated]
      rw [openPipesOf, List.length_cons]
      omega

/-- A row has a pipe on either side of each cell, and those that stray. -/
theorem openPipes_tableLine (filled : cells ≠ [])
    : openPipes rule false (tableLine cells) = cells.length + 1 + openPipesOf rule cells := by
  have blank : Neutral ' ' := by decide
  have outer : openPipes rule false (tableLine cells)
      = 1 + openPipes rule false (Chars.join cellSeparator cells) + 1 := by
    have start : ∀ t, openPipes rule false ('|' :: ' ' :: t) = 1 + openPipes rule false t := by
      intro t
      rw [openPipes, openPipes_cons_neutral blank]
      rfl
    rw [tableLine, List.cons_append, List.cons_append, start, openPipes_append_neutral blank]
    rfl
  have inner := openPipes_join rule filled
  omega

theorem length_rawCells (guarded : Bool) (s : Chars)
    : (rawCells guarded s).length = openPipes .odd guarded s + 1 := by
  induction s generalizing guarded with
  | nil => rfl
  | cons c s ih =>
      rw [rawCells, openPipes]
      by_cases ends : (c == '|' && !guarded) = true
      · have pipe : c = '|' := beq_iff_eq.mp (Bool.and_eq_true_iff.mp ends).1
        rw [if_pos ends, if_pos ends, List.length_cons, ih, pipe]
        simp [PipeRule.guarding, Nat.add_comm]
      · have step : PipeRule.guarding .odd guarded c = (c == '\\' && !guarded) := by
          simp [PipeRule.guarding]
        have length := ih (c == '\\' && !guarded)
        rw [if_neg ends, if_neg ends, Nat.zero_add, step, ← length]
        cases cut : rawCells (c == '\\' && !guarded) s with
        | nil =>
            rw [cut] at length
            cases length
        | cons cell cells => rfl

theorem betweenPipes?_tableLine (cells : List Chars)
    : betweenPipes? (tableLine cells) = some (' ' :: Chars.join cellSeparator cells ++ [' ']) := by
  have shape : tableLine cells = '|' :: (' ' :: Chars.join cellSeparator cells ++ [' '] ++ ['|']) := by
    simp [tableLine]
  have visible : ¬ Text.isInlineBlank '|' = true := by decide
  have start : ∀ t : Chars, withinIndent? 3 ('|' :: t) = some ('|' :: t) := fun _ => rfl
  simp only [betweenPipes?, shape, start, bind, Option.bind, Chars.dropEndWhile_eq_rdropWhile,
    List.rdropWhile_concat_neg _ _ _ visible, List.getLast?_concat, List.dropLast_concat,
    beq_self_eq_true, if_true]

/-- A row is read back with a cell for each of its own, and one for each pipe in them that ends one. -/
theorem length_splitCells_tableLine (filled : cells ≠ [])
    : (splitCells (' ' :: Chars.join cellSeparator cells ++ [' '])).length
      = cells.length + openPipesOf .odd cells := by
  have blank : Neutral ' ' := by decide
  rw [splitCells, List.length_map, length_rawCells, Chars.strip,
    openPipes_trim (fun _ => neutral_of_blank), List.cons_append, openPipes_cons_neutral blank,
    openPipes_append_neutral blank]
  exact openPipes_join .odd filled

theorem openPipes_tableLine_iff
    : openPipes rule false (tableLine cells) = cells.length + 1
      ↔ cells ≠ [] ∧ PipesKept rule cells := by
  by_cases filled : cells = []
  · subst filled
    have outer : openPipes rule false (tableLine []) = 2 := by cases rule <;> decide
    rw [outer]
    simp
  · rw [openPipes_tableLine filled, Nat.add_eq_left, openPipesOf_eq_zero]
    simp [filled]

/-- A line that is read as a row of so many cells. -/
def ReadsAs (columns : Nat) (line : Chars) : Prop :=
  ∃ row, betweenPipes? line = some row ∧ (splitCells row).length = columns

theorem readsAs_tableLine_iff
    : ReadsAs cells.length (tableLine cells) ↔ cells ≠ [] ∧ PipesKept .odd cells := by
  have read : ReadsAs cells.length (tableLine cells)
      ↔ (splitCells (' ' :: Chars.join cellSeparator cells ++ [' '])).length = cells.length := by
    simp [ReadsAs, betweenPipes?_tableLine]
  rw [read]
  by_cases filled : cells = []
  · subst filled
    have lone : (splitCells (' ' :: Chars.join cellSeparator [] ++ [' '])).length = 1 := by decide
    rw [lone]
    simp
  · rw [length_splitCells_tableLine filled, Nat.add_eq_left, openPipesOf_eq_zero]
    simp [filled]

-----------------------------------------------------------------------------------------
-- Lines of a table
-----------------------------------------------------------------------------------------

section Lines

variable {columns : Nat} {alignments : List (Option Alignment)} {rows : List (List Chars)}

theorem length_fillCells (fits : cells.length ≤ columns)
    : (fillCells columns cells).length = columns := by
  simp [fillCells, Nat.add_sub_cancel' fits]

theorem pipesKept_fillCells
    : PipesKept rule (fillCells columns cells) ↔ PipesKept rule cells := by
  have empty : ∀ n, PipesKept rule (List.replicate n []) := by
    intro n text held
    rw [List.eq_of_mem_replicate held]
    rfl
  rw [fillCells, pipesKept_append]
  exact and_iff_left (empty _)

theorem pipesKept_alignmentCell (rule : PipeRule) (alignments : List (Option Alignment))
    : PipesKept rule (alignments.map alignmentCell) := by
  intro text held
  obtain ⟨alignment, -, rfl⟩ := List.mem_map.mp held
  cases rule <;> rcases alignment with - | - | - | - <;> decide

/-- The line of alignments has its columns, as far as there are any; so do the rows that keep their pipes. -/
theorem forall_tableLines_iff (has : Nat → Chars → Prop)
    (line : ∀ cells, has cells.length (tableLine cells) ↔ cells ≠ [] ∧ PipesKept rule cells)
    (filled : rows ≠ []) (fits : ∀ cells ∈ rows, cells.length ≤ columns)
    : (∀ line ∈ tableLines columns alignments rows, has columns line)
      ↔ 0 < columns ∧ ∀ cells ∈ rows, PipesKept rule cells := by
  have row : ∀ cells ∈ rows,
      has columns (tableLine (fillCells columns cells)) ↔ 0 < columns ∧ PipesKept rule cells := by
    intro cells held
    have length := length_fillCells (fits cells held)
    have whole := line (fillCells columns cells)
    rw [length, pipesKept_fillCells, ← List.length_pos_iff, length] at whole
    exact whole
  have stated : has columns (alignmentLine columns alignments) ↔ 0 < columns := by
    have whole := line ((List.range columns).map (fun j => alignmentCell (alignments[j]?.getD none)))
    have kept : PipesKept rule
        ((List.range columns).map (fun j => alignmentCell (alignments[j]?.getD none))) := by
      have cells := pipesKept_alignmentCell rule
        ((List.range columns).map (fun j => alignments[j]?.getD none))
      rwa [List.map_map] at cells
    rw [← List.length_pos_iff, List.length_map, List.length_range] at whole
    rw [alignmentLine, whole]
    exact and_iff_left kept
  cases rows with
  | nil => exact absurd rfl filled
  | cons first rest =>
      obtain ⟨here, later⟩ := List.forall_mem_cons.mp row
      simp only [tableLines, List.forall_mem_cons, List.forall_mem_map, here, stated]
      constructor
      · rintro ⟨⟨some_column, kept⟩, -, others⟩
        exact ⟨some_column, kept, fun cells held => ((later cells held).mp (others cells held)).2⟩
      · rintro ⟨some_column, kept, others⟩
        exact ⟨⟨some_column, kept⟩, some_column,
          fun cells held => (later cells held).mpr ⟨some_column, others cells held⟩⟩

end Lines

end MixedScript.Markdown
