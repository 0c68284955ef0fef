import MixedScript.Proofs.Markdown.Placement

/-! Trees that can be written. Writing fails at a leaf that was never given its content and where lists, tables
or rows hold what does not belong there, and nowhere else. -/

namespace MixedScript.Markdown

variable {c : Context} {n : Node} {nodes : List Node}

/-- A node that lists hold. -/
def isItem : Node → Bool
  | .flow (.listItem _) _ _ => true
  | _ => false

/-- A node that tables hold. -/
def isRow : Node → Bool
  | .group (.tableRow _) _ _ => true
  | _ => false

/-- A node that rows hold. -/
def isCell : Node → Bool
  | .flow (.tableCell _) _ _ => true
  | _ => false

/-- Whether a group may hold a node. -/
def admits : Group → Node → Bool
  | .list .., n => isItem n
  | .table .., n => isRow n
  | .tableRow _, n => isCell n
  | _, _ => true

/-- A tree that is complete and in which lists hold items, tables rows, and rows cells. -/
inductive Writable : Node → Prop
  | text {s m} : Writable (.text s m)
  | math {form s m} : Writable (.math form s m)
  | code {s m} : Writable (.code s m)
  | leaf {leaf m} (given : ∀ kind, leaf ≠ .unset kind) : Writable (.inert leaf m)
  | note {identifier cs m} (inside : ∀ n ∈ cs, Writable n) : Writable (.note identifier cs m)
  | flow {form cs m} (inside : ∀ n ∈ cs, Writable n) : Writable (.flow form cs m)
  | group {form cs m} (admitted : ∀ n ∈ cs, admits form n = true)
    (inside : ∀ n ∈ cs, Writable n) : Writable (.group form cs m)

/-- A node that is written wherever it stands. -/
def AlwaysWritten (n : Node) : Prop :=
  ∀ c, ∃ piece, writePiece c n = .ok piece

theorem exists_writeBlocks (each : ∀ n ∈ nodes, AlwaysWritten n) (c : Context)
    : ∃ blocks, writeBlocks c nodes = .ok blocks := by
  induction nodes generalizing c with
  | nil => exact ⟨[], rfl⟩
  | cons n nodes ih =>
      obtain ⟨here, later⟩ := List.forall_mem_cons.mp each
      rw [writeBlocks]
      split
      · exact ih later c
      · obtain ⟨piece, made⟩ := here c
        obtain ⟨blocks, listed⟩ := ih later (c.after n)
        exact ⟨_, bind_eq_ok.mpr ⟨piece, made, bind_eq_ok.mpr ⟨blocks, listed, rfl⟩⟩⟩

theorem exists_itemBlocks {task : Option TaskState} {cs : List Node} {m : Mapping}
    (written : AlwaysWritten (.flow (.listItem task) cs m)) (c : Context)
    : ∃ blocks, writeBlocks c cs = .ok blocks := by
  obtain ⟨piece, made⟩ := written c
  obtain ⟨blocks, listed, -⟩ := bind_eq_ok.mp made
  exact ⟨blocks, listed⟩

theorem exists_writeItems {ordered tight : Bool} {bullet : Option Chars}
    (items : ∀ n ∈ nodes, isItem n = true) (each : ∀ n ∈ nodes, AlwaysWritten n) (c : Context)
    (number : Int)
    : ∃ texts, writeItems c ordered number tight bullet nodes = .ok texts := by
  induction nodes generalizing c number with
  | nil => exact ⟨[], rfl⟩
  | cons n nodes ih =>
      obtain ⟨item, others⟩ := List.forall_mem_cons.mp items
      obtain ⟨here, later⟩ := List.forall_mem_cons.mp each
      match n, item with
      | .flow (.listItem task) cs m, _ =>
          obtain ⟨blocks, listed⟩ := exists_itemBlocks here c
          obtain ⟨texts, behind⟩ := ih others later (c.after (.flow (.listItem task) cs m)) (number + 1)
          exact ⟨_, bind_eq_ok.mpr ⟨blocks, listed, bind_eq_ok.mpr ⟨texts, behind, rfl⟩⟩⟩

theorem exists_writeRows (rows : ∀ n ∈ nodes, isRow n = true) (each : ∀ n ∈ nodes, AlwaysWritten n)
    (c : Context)
    : ∃ texts, writeRows c nodes = .ok texts := by
  induction nodes with
  | nil => exact ⟨[], rfl⟩
  | cons n nodes ih =>
      obtain ⟨row, others⟩ := List.forall_mem_cons.mp rows
      obtain ⟨here, later⟩ := List.forall_mem_cons.mp each
      match n, row with
      | .group (.tableRow header) cs m, _ =>
          obtain ⟨piece, made⟩ := here c
          obtain ⟨cells, listed, -⟩ := bind_eq_ok.mp made
          obtain ⟨texts, behind⟩ := ih others later
          exact ⟨_, bind_eq_ok.mpr ⟨cells, listed, bind_eq_ok.mpr ⟨texts, behind, rfl⟩⟩⟩

theorem exists_writeCells (cells : ∀ n ∈ nodes, isCell n = true) (each : ∀ n ∈ nodes, AlwaysWritten n)
    (c : Context)
    : ∃ texts, writeCells c nodes = .ok texts := by
  induction nodes generalizing c with
  | nil => exact ⟨[], rfl⟩
  | cons n nodes ih =>
      obtain ⟨cell, others⟩ := List.forall_mem_cons.mp cells
      obtain ⟨here, later⟩ := List.forall_mem_cons.mp each
      match n, cell with
      | .flow (.tableCell alignment) cs m, _ =>
          obtain ⟨piece, made⟩ := here c
          obtain ⟨pieces, listed, -⟩ := bind_eq_ok.mp made
          obtain ⟨texts, behind⟩ := ih others later (c.after (.flow (.tableCell alignment) cs m))
          exact ⟨_, bind_eq_ok.mpr ⟨pieces, listed, bind_eq_ok.mpr ⟨texts, behind, rfl⟩⟩⟩

theorem alwaysWritten_leaf {leaf : Inert} {m : Mapping} (given : ∀ kind, leaf ≠ .unset kind)
    : AlwaysWritten (.inert leaf m) := by
  intro c
  cases leaf with
  | unset kind => exact absurd rfl (given kind)
  | _ => exact ⟨_, rfl⟩

theorem alwaysWritten_flow {form : Flow} {cs : List Node} {m : Mapping}
    (inside : ∀ n ∈ cs, AlwaysWritten n)
    : AlwaysWritten (.flow form cs m) := by
  intro c
  obtain ⟨pieces, listed⟩ := exists_writePieces inside c
  obtain ⟨blocks, joined⟩ := exists_writeBlocks inside c
  cases form with
  | link =>
      rw [writePiece]
      split
      · exact ⟨_, rfl⟩
      · exact ⟨_, bind_eq_ok.mpr ⟨pieces, listed, rfl⟩⟩
  | listItem => exact ⟨_, bind_eq_ok.mpr ⟨blocks, joined, rfl⟩⟩
  | _ => exact ⟨_, bind_eq_ok.mpr ⟨pieces, listed, rfl⟩⟩

theorem alwaysWritten_group {form : Group} {cs : List Node} {m : Mapping}
    (admitted : ∀ n ∈ cs, admits form n = true) (inside : ∀ n ∈ cs, AlwaysWritten n)
    : AlwaysWritten (.group form cs m) := by
  intro c
  cases form with
  | document | blockQuote =>
      obtain ⟨blocks, joined⟩ := exists_writeBlocks inside c
      exact ⟨_, bind_eq_ok.mpr ⟨blocks, joined, rfl⟩⟩
  | list ordered start tight bullet =>
      obtain ⟨texts, listed⟩ := exists_writeItems admitted inside c.deeper start
      exact ⟨_, bind_eq_ok.mpr ⟨texts, listed, rfl⟩⟩
  | table headed alignments =>
      obtain ⟨rows, listed⟩ := exists_writeRows admitted inside c
      exact ⟨_, bind_eq_ok.mpr ⟨rows, listed, rfl⟩⟩
  | tableRow header =>
      obtain ⟨cells, listed⟩ := exists_writeCells admitted inside { c with inTable := true }
      exact ⟨_, bind_eq_ok.mpr ⟨cells, listed, rfl⟩⟩

/-- A tree that can be written is written wherever it stands. -/
theorem Writable.alwaysWritten (writable : Writable n)
    : AlwaysWritten n := by
  induction writable with
  | text | code => exact fun c => ⟨_, rfl⟩
  | @math form => exact fun c => by cases form <;> exact ⟨_, rfl⟩
  | leaf given => exact alwaysWritten_leaf given
  | note _ ih =>
      intro c
      obtain ⟨blocks, joined⟩ := exists_writeBlocks ih c
      exact ⟨_, bind_eq_ok.mpr ⟨blocks, joined, rfl⟩⟩
  | flow _ ih => exact alwaysWritten_flow ih
  | group admitted _ ih => exact alwaysWritten_group admitted ih

end MixedScript.Markdown
