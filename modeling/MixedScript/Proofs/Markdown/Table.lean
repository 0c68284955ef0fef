import MixedScript.Proofs.Markdown.Cell
import MixedScript.Proofs.Text.Lines

/-! Tables. Every row is filled up to as many cells as the longest has, so that a table keeps its columns as
far as its cells keep their pipes. -/

namespace MixedScript.Markdown

variable {c : Context} {n : Node}

-----------------------------------------------------------------------------------------
-- Cells
-----------------------------------------------------------------------------------------

/-- A cell of a table. -/
inductive Cell : Node → Prop
  | intro {alignment nodes m} (inside : ∀ n ∈ nodes, CellNode n)
    : Cell (.flow (.tableCell alignment) nodes m)

/-- A row of cells. -/
inductive CellRow : Node → Prop
  | intro {header cells m} (each : ∀ cell ∈ cells, Cell cell)
    : CellRow (.group (.tableRow header) cells m)

theorem after_cell (cell : Cell n) (c : Context)
    : c.after n = c := by
  cases cell with
  | intro inside =>
      simp [Context.after, holdsCells,
        anyHoldsCells_of_none (fun n held => holdsCells_cellNode (inside n held))]

/-- The texts of some cells: on one line each, and with their pipes kept exactly if those of the cells are. -/
structure CellTexts (cells : List Node) (texts : List Chars) : Prop where
  length : texts.length = cells.length
  single : ∀ text ∈ texts, '\n' ∉ text
  pipes : ∀ rule, PipesKept rule texts ↔ PipesKept rule (bareTextsOf cells)

theorem not_mem_onOneLine (s : Chars)
    : '\n' ∉ onOneLine s := by
  intro held
  have inside := (List.dropWhile_sublist Text.isBlank).subset (Chars.mem_of_mem_dropEndWhile held)
  obtain ⟨x, -, shown⟩ := List.mem_flatMap.mp inside
  split at shown
  · exact absurd (List.mem_singleton.mp shown) (by decide)
  · next other =>
      rw [← List.mem_singleton.mp shown] at other
      exact other rfl

theorem exists_cellTexts {cells : List Node} (cell : c.inTable = true)
    (escapes : c.options.escape = true) (each : ∀ n ∈ cells, Cell n)
    : ∃ texts, writeCells c cells = .ok texts ∧ CellTexts cells texts := by
  induction cells with
  | nil => exact ⟨[], rfl, rfl, by simp, fun rule => Iff.rfl⟩
  | cons n cells ih =>
      obtain ⟨here, later⟩ := List.forall_mem_cons.mp each
      obtain ⟨texts, listed, behind⟩ := ih later
      have same := after_cell here c
      cases here with
      | @intro alignment nodes m inside =>
          obtain ⟨pieces, written, kept⟩ := exists_keptWith_line (fun n held =>
            ⟨after_cellNode (inside n held) c, (inside n held).exists_keptWith cell escapes⟩)
          refine ⟨onOneLine (assemble pieces) :: texts, ?_, ?_, ?_, fun rule => ?_⟩
          · refine bind_eq_ok.mpr ⟨pieces, written, bind_eq_ok.mpr ⟨texts, ?_, rfl⟩⟩
            rwa [same]
          · rw [List.length_cons, behind.length, List.length_cons]
          · exact List.forall_mem_cons.mpr ⟨not_mem_onOneLine _, behind.single⟩
          · have line := (kept rule none).inside
            rw [← assembleFrom_eq_flatten] at line
            have bare : bareTexts (.flow (.tableCell alignment) nodes m) = bareTextsOf nodes := by
              simp [bareTexts]
            rw [bareTextsOf, pipesKept_append, ← behind.pipes rule, bare, ← line, pipesKept_cons,
              openPipes_onOneLine]
            rfl

-----------------------------------------------------------------------------------------
-- Tables
-----------------------------------------------------------------------------------------

/-- The rows of a table are written, each as the texts of its cells. -/
theorem exists_rowTexts {rows : List Node} (escapes : c.options.escape = true)
    (each : ∀ row ∈ rows, CellRow row)
    : ∃ texts,
        writeRows c rows = .ok texts
        ∧ List.Forall₂ (fun row cells => CellTexts row.children cells) rows texts := by
  induction rows with
  | nil => exact ⟨[], rfl, .nil⟩
  | cons row rows ih =>
      obtain ⟨here, later⟩ := List.forall_mem_cons.mp each
      obtain ⟨texts, listed, behind⟩ := ih later
      cases here with
      | @intro header cells m inside =>
          obtain ⟨first, written, kept⟩ :=
            exists_cellTexts (c := { c with inTable := true }) rfl escapes inside
          exact ⟨first :: texts,
            bind_eq_ok.mpr ⟨first, written, bind_eq_ok.mpr ⟨texts, listed, rfl⟩⟩, .cons kept behind⟩

section Rows

variable {rows : List Node} {written : List (List Chars)}

theorem pipesKept_rows (each : ∀ row ∈ rows, CellRow row)
    (texts : List.Forall₂ (fun row cells => CellTexts row.children cells) rows written)
    (rule : PipeRule)
    : (∀ cells ∈ written, PipesKept rule cells) ↔ PipesKept rule (bareTextsOf rows) := by
  induction texts with
  | nil => simp [PipesKept, bareTextsOf]
  | @cons row cells rows written here later ih =>
      obtain ⟨shape, others⟩ := List.forall_mem_cons.mp each
      have inside : bareTexts row = bareTextsOf row.children := by
        cases shape
        rw [bareTexts]
        rfl
      rw [List.forall_mem_cons, bareTextsOf, pipesKept_append, inside, here.pipes rule, ih others]

theorem lengths_rows
    (texts : List.Forall₂ (fun row cells => CellTexts row.children cells) rows written)
    : written.map List.length = rows.map (fun row => row.children.length) := by
  induction texts with
  | nil => rfl
  | cons here _ ih => rw [List.map_cons, List.map_cons, here.length, ih]

theorem single_rows
    (texts : List.Forall₂ (fun row cells => CellTexts row.children cells) rows written)
    : ∀ cells ∈ written, ∀ text ∈ cells, '\n' ∉ text := by
  induction texts with
  | nil => simp
  | cons here _ ih => exact List.forall_mem_cons.mpr ⟨here.single, ih⟩

/-- The number of columns is the length of the longest row. -/
theorem columns_rows (filled : rows ≠ [])
    (texts : List.Forall₂ (fun row cells => CellTexts row.children cells) rows written)
    : (rows.map (fun row => row.children.length)).max?
      = some (written.foldl (fun n cells => max n cells.length) 0) := by
  have lengths := lengths_rows texts
  cases texts with
  | nil => exact absurd rfl filled
  | @cons row cells rows written here later =>
      rw [← lengths, List.map_cons, List.max?_cons', List.foldl_map, List.foldl_cons, Nat.zero_max]

theorem fits_columns
    : ∀ cells ∈ written, cells.length ≤ written.foldl (fun n cells => max n cells.length) 0 := by
  have grows : ∀ (written : List (List Chars)) (n : Nat),
      n ≤ written.foldl (fun n cells => max n cells.length) n
      ∧ ∀ cells ∈ written, cells.length ≤ written.foldl (fun n cells => max n cells.length) n := by
    intro written
    induction written with
    | nil => exact fun n => ⟨Nat.le_refl n, by simp⟩
    | cons cells written ih =>
        intro n
        obtain ⟨least, longest⟩ := ih (max n cells.length)
        exact ⟨(Nat.le_max_left _ _).trans least,
          List.forall_mem_cons.mpr ⟨(Nat.le_max_right _ _).trans least, longest⟩⟩
  exact (grows written 0).2

end Rows

theorem not_mem_join {cells : List Chars} (single : ∀ cell ∈ cells, '\n' ∉ cell)
    : '\n' ∉ Chars.join cellSeparator cells := by
  intro held
  rcases Chars.mem_join held with between | ⟨cell, inside, held⟩
  · exact absurd between (by decide)
  · exact single cell inside held

theorem not_mem_tableLine {cells : List Chars} (single : ∀ cell ∈ cells, '\n' ∉ cell)
    : '\n' ∉ tableLine cells := by
  simp [tableLine, not_mem_join single]

theorem not_mem_tableLines {rows : List (List Chars)} {columns : Nat}
    {alignments : List (Option Alignment)} (single : ∀ cells ∈ rows, ∀ cell ∈ cells, '\n' ∉ cell)
    : ∀ line ∈ tableLines columns alignments rows, '\n' ∉ line := by
  have row : ∀ cells ∈ rows, '\n' ∉ tableLine (fillCells columns cells) := by
    intro cells held
    refine not_mem_tableLine (List.forall_mem_append.mpr ⟨single cells held, fun cell filler => ?_⟩)
    rw [List.eq_of_mem_replicate filler]
    exact List.not_mem_nil
  have stated : '\n' ∉ alignmentLine columns alignments := by
    refine not_mem_tableLine (fun cell held => ?_)
    obtain ⟨j, -, rfl⟩ := List.mem_map.mp held
    rcases alignments[j]?.getD none with - | - | - | - <;> decide
  cases rows with
  | nil => simp [tableLines]
  | cons first rest =>
      obtain ⟨here, later⟩ := List.forall_mem_cons.mp row
      simp only [tableLines, List.forall_mem_cons, List.forall_mem_map]
      exact ⟨here, stated, later⟩

/-- A table has a line for each row and one for its alignments, and in each of them one pipe more than
columns exactly if there are columns and no text that is written without regard to pipes has an open one.
Read by the rule of tables, each line has as many cells as there are columns on the same condition. -/
theorem table_columns_iff {headed : Bool} {alignments : List (Option Alignment)} {rows : List Node}
    {m : Mapping} (escapes : c.options.escape = true) (filled : rows ≠ [])
    (each : ∀ row ∈ rows, CellRow row)
    : ∃ text columns,
        writePiece c (.group (.table headed alignments) rows m) = .ok (.plain text)
        ∧ (rows.map (fun row => row.children.length)).max? = some columns
        ∧ (Chars.lines text).length = rows.length + 1
        ∧ (Chars.lines text)[1]? = some (alignmentLine columns alignments)
        ∧ ((∀ line ∈ Chars.lines text, openPipes .adjacent false line = columns + 1)
            ↔ 0 < columns ∧ PipesKept .adjacent (bareTextsOf rows))
        ∧ ((∀ line ∈ Chars.lines text, ReadsAs columns line)
            ↔ 0 < columns ∧ PipesKept .odd (bareTextsOf rows)) := by
  obtain ⟨written, listed, texts⟩ := exists_rowTexts escapes each
  have some_row : written ≠ [] := by
    rintro rfl
    cases texts
    exact filled rfl
  let columns := written.foldl (fun n cells => max n cells.length) 0
  have some_line : tableLines columns alignments written ≠ [] := by
    obtain ⟨first, rest, rfl⟩ := List.exists_cons_of_ne_nil some_row
    exact List.cons_ne_nil _ _
  have lines : Chars.lines (Chars.join ['\n'] (tableLines columns alignments written))
      = tableLines columns alignments written :=
    Chars.lines_join (not_mem_tableLines (single_rows texts)) some_line
  refine ⟨_, columns, bind_eq_ok.mpr ⟨written, listed, rfl⟩, columns_rows filled texts, ?_⟩
  rw [lines]
  refine ⟨?_, ?_, ?_, ?_⟩
  · rw [texts.length_eq]
    obtain ⟨first, rest, rfl⟩ := List.exists_cons_of_ne_nil some_row
    simp [tableLines]
  · obtain ⟨first, rest, rfl⟩ := List.exists_cons_of_ne_nil some_row
    rfl
  · rw [← pipesKept_rows each texts]
    exact forall_tableLines_iff (fun columns line => openPipes .adjacent false line = columns + 1)
      (fun _ => openPipes_tableLine_iff) some_row fits_columns
  · rw [← pipesKept_rows each texts]
    exact forall_tableLines_iff ReadsAs (fun _ => readsAs_tableLine_iff) some_row fits_columns

/-- Pipes in text are escaped, at any depth, and a short row is filled up. -/
theorem escaped_pipes_keep_columns
    : let cell := fun nodes => Node.flow (.tableCell none) nodes []
      let rows : List Node :=
        [.group (.tableRow true)
            [cell [.text "a|b".toList []], cell [.code "c\\|d".toList [], .inert (.lineBreak true) []]] [],
          .group (.tableRow false) [cell [.flow .strong [.text "|".toList []] []]] []]
      let text := "| a\\|b | \x60c\\|d\x60 |\n| :--- | --- |\n| **\\|** |  |".toList
      rows ≠ []
      ∧ (∀ row ∈ rows, CellRow row)
      ∧ writePiece (.root {}) (.group (.table true [some .left, none]) rows []) = .ok (.plain text)
      ∧ (∀ line ∈ Chars.lines text, openPipes .adjacent false line = 3)
      ∧ ∀ line ∈ Chars.lines text, ReadsAs 2 line := by
  intro cell rows text
  have filled : rows ≠ [] := List.cons_ne_nil _ _
  have strong : CellNode (.flow .strong [.text "|".toList []] []) :=
    .span rfl (List.forall_mem_singleton.mpr .text)
  have first : Cell (cell [.text "a|b".toList []]) := .intro (List.forall_mem_singleton.mpr .text)
  have second : Cell (cell [.code "c\\|d".toList [], .inert (.lineBreak true) []]) :=
    .intro (List.forall_mem_cons.mpr ⟨.code, List.forall_mem_singleton.mpr .lineBreak⟩)
  have third : Cell (cell [.flow .strong [.text "|".toList []] []]) :=
    .intro (List.forall_mem_singleton.mpr strong)
  have each : ∀ row ∈ rows, CellRow row :=
    List.forall_mem_cons.mpr
      ⟨.intro (List.forall_mem_cons.mpr ⟨first, List.forall_mem_singleton.mpr second⟩),
        List.forall_mem_singleton.mpr (.intro (List.forall_mem_singleton.mpr third))⟩
  obtain ⟨text', columns, written, longest, -, -, delimited, read⟩ :=
    @table_columns_iff (.root {}) true [some .left, none] rows [] rfl filled each
  have known : writePiece (.root {}) (.group (.table true [some .left, none]) rows [])
      = .ok (.plain text) := ok_of_toOption (by decide +kernel)
  obtain rfl : columns = 2 := Option.some.inj (longest.symm.trans (by decide +kernel))
  obtain rfl : text' = text := Piece.plain.inj (Except.ok.inj (written.symm.trans known))
  exact ⟨filled, each, known, delimited.mpr (by decide +kernel), read.mpr (by decide +kernel)⟩

/-- The text of an image is written with its pipes as they are, and ends its cell too early. -/
theorem pipe_in_image_ends_cell
    : ¬ ∀ (c : Context) (headed : Bool) (alignments : List (Option Alignment)) (rows : List Node)
          (m : Mapping),
        c.options.escape = true
          → rows ≠ []
          → (∀ row ∈ rows, CellRow row)
          → ∃ text columns,
              writePiece c (.group (.table headed alignments) rows m) = .ok (.plain text)
              ∧ (rows.map (fun row => row.children.length)).max? = some columns
              ∧ ∀ line ∈ Chars.lines text, openPipes .adjacent false line = columns + 1 := by
  intro keeps
  let image : Node := .inert (.image "u".toList "a|b".toList none) []
  let row : Node := .group (.tableRow true) [.flow (.tableCell none) [image] []] []
  have shape : CellRow row :=
    .intro (List.forall_mem_singleton.mpr (.intro (List.forall_mem_singleton.mpr .image)))
  obtain ⟨text, columns, written, longest, delimited⟩ :=
    keeps (.root {}) true [none] [row] [] rfl (List.cons_ne_nil _ _)
      (List.forall_mem_singleton.mpr shape)
  obtain rfl : columns = 1 := Option.some.inj (longest.symm.trans (by decide +kernel))
  obtain rfl : text = "| ![a|b](u) |\n| --- |".toList :=
    Piece.plain.inj (Except.ok.inj (written.symm.trans (ok_of_toOption (by decide +kernel))))
  revert delimited
  decide +kernel

end MixedScript.Markdown
