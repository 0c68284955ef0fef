import MixedScript.Proofs.Markdown.Writable
import MixedScript.Proofs.Text.Lines
import MixedScript.Proofs.Text.Trim
import Mathlib.Data.List.Forall2

/-! Items of lists. What follows the first line of an item is indented by the width of its marker, or by more if
the options ask for it. An item holds its content as long as the number in its marker has at most nine digits
and no line stands more than three columns further in than the content behind the marker. -/

namespace MixedScript.Markdown

/-- The mark of an item of a list: a bullet, or up to nine digits and a delimiter. -/
inductive ItemMark : Chars → Prop
  | bullet {b : Char} (bullet : b ∈ ['-', '*', '+']) : ItemMark [b]
  | number {ds : Chars} {d : Char} (filled : ds ≠ []) (short : ds.length ≤ 9)
    (decimal : ∀ x ∈ ds, x.isDigit = true) (delimiter : d = '.' ∨ d = ')') : ItemMark (ds ++ [d])

/-- A line of the content of an item, and that line in the item. It stands at a column from which it neither
leaves the item nor becomes code. -/
inductive Continues (width : Nat) : Chars → Chars → Prop
  | blank : Continues width [] []
  | indented {line : Chars} {n : Nat} (filled : line ≠ []) (least : width ≤ n) (most : n ≤ width + 3)
    : Continues width line (List.replicate n ' ' ++ line)

/-- An item that holds its content: behind a mark that a space or the end of the line follows, and on lines that
belong to it. -/
def HoldsItem (content item : Chars) : Prop :=
  ∃ mark first rest,
    ItemMark mark
    ∧ Chars.lines item = (mark ++ first) :: rest
    ∧ (∀ x, first.head? = some x → x = ' ')
    ∧ List.Forall₂ (Continues (mark.length + 1)) (Chars.lines content).tail rest

variable {c : Context} {mark content line s : Chars} {task : Option TaskState} {width k : Nat} {x : Char}

-----------------------------------------------------------------------------------------
-- Marks
-----------------------------------------------------------------------------------------

theorem visible_digit (digit : x.isDigit = true)
    : Text.isBlank x = false := by
  have known : ∀ n < 58, (Char.ofNat n).isDigit = true → Text.isBlank (Char.ofNat n) = false := by decide
  obtain ⟨-, most⟩ : 48 ≤ x.toNat ∧ x.toNat ≤ 57 := by
    simpa [Char.isDigit, UInt32.le_iff_toNat_le] using digit
  exact Chars.of_below (P := fun x => x.isDigit = true → Text.isBlank x = false) known
    (Nat.lt_succ_of_le most) digit

theorem ItemMark.visible (item : ItemMark mark)
    : ∀ x ∈ mark, Text.isBlank x = false := by
  cases item with
  | @bullet b bullet =>
      have bullets : ['-', '*', '+'].all (fun b => !Text.isBlank b) = true := by decide
      have visible : Text.isBlank b = false := by simpa using List.all_eq_true.mp bullets b bullet
      exact List.forall_mem_singleton.mpr visible
  | @number ds d _ _ decimal delimiter =>
      rw [List.forall_mem_append]
      refine ⟨fun x held => visible_digit (decimal x held), List.forall_mem_singleton.mpr ?_⟩
      rcases delimiter with rfl | rfl <;> decide

/-- A text without blanks that a space or nothing follows is where the first space ends it. -/
theorem takeWhile_mark {first : Chars} (visible : ∀ x ∈ mark, Text.isBlank x = false)
    (apart : ∀ x, first.head? = some x → x = ' ')
    : (mark ++ first).takeWhile (· != ' ') = mark := by
  have solid : ∀ x ∈ mark, (x != ' ') = true := by
    intro x held
    rw [bne_iff_ne]
    rintro rfl
    exact absurd (visible ' ' held) (by decide)
  rw [List.takeWhile_append_of_pos solid]
  cases first with
  | nil => rw [List.takeWhile_nil, List.append_nil]
  | cons y more =>
      obtain rfl := apart y rfl
      simp

theorem mark_unique {mark' first first' : Chars} (visible : ∀ x ∈ mark, Text.isBlank x = false)
    (visible' : ∀ x ∈ mark', Text.isBlank x = false) (apart : ∀ x, first.head? = some x → x = ' ')
    (apart' : ∀ x, first'.head? = some x → x = ' ') (same : mark ++ first = mark' ++ first')
    : mark = mark' := by
  rw [← takeWhile_mark visible apart, ← takeWhile_mark visible' apart', same]

/-- A number is the mark of an item if it has at most nine digits. -/
theorem itemMark_number_iff {number : Nat} {d : Char} (delimiter : d = '.' ∨ d = ')')
    : ItemMark (Chars.ofNat number ++ [d]) ↔ number ≤ 999999999 := by
  have filled : Chars.ofNat number ≠ [] := Nat.toDigits_ne_nil
  have digits : (Chars.ofNat number).length ≤ 9 ↔ number < 10 ^ 9 :=
    Nat.length_toDigits_le_iff (by decide) (by decide)
  constructor
  · intro item
    generalize same : Chars.ofNat number ++ [d] = mark at item
    cases item with
    | bullet =>
        have short := congrArg List.length same
        rw [List.length_append, List.length_singleton, List.length_singleton, Nat.add_eq_right,
          List.length_eq_zero_iff] at short
        exact absurd short filled
    | number _ short =>
        rw [(List.append_inj' same rfl).1.symm, digits] at short
        omega
  · intro small
    exact .number filled (digits.mpr (by omega))
      (fun _ held => Nat.isDigit_of_mem_toDigits (by decide) (by decide) held) delimiter

/-- The marker of an item of a list. -/
def Context.itemMarker (c : Context) (ordered : Bool) (bullet : Option Chars) (number : Int) : Chars :=
  if ordered then numberMarker number bullet else c.bulletMarker bullet

theorem exists_bulletMark (c : Context) (source : Option Chars)
    : ∃ b : Bullet, c.bulletMarker source = [b.char] ++ [' '] := by
  unfold Context.bulletMarker
  split <;> exact ⟨_, rfl⟩

/-- The marker of an item is a mark and a space, unless its number is too long. -/
theorem exists_mark (c : Context) (ordered : Bool) (bullet : Option Chars) {number : Int}
    (natural : 0 ≤ number)
    : ∃ mark,
        c.itemMarker ordered bullet number = mark ++ [' ']
        ∧ (∀ x ∈ mark, Text.isBlank x = false)
        ∧ (ItemMark mark ↔ (ordered = true → number ≤ 999999999)) := by
  obtain ⟨number, rfl⟩ := Int.eq_ofNat_of_zero_le natural
  cases ordered with
  | false =>
      obtain ⟨b, made⟩ := exists_bulletMark c bullet
      have item : ItemMark [b.char] := .bullet (by cases b <;> decide)
      exact ⟨[b.char], made, item.visible, by simp [item]⟩
  | true =>
      obtain ⟨d, delimiter, made⟩ : ∃ d, (d = '.' ∨ d = ')')
          ∧ (if bullet == some [')'] then [')'] else ['.']) = [d] := by
        split
        · exact ⟨')', .inr rfl, rfl⟩
        · exact ⟨'.', .inl rfl, rfl⟩
      have written : c.itemMarker true bullet number = (Chars.ofNat number ++ [d]) ++ [' '] := by
        rw [Context.itemMarker, if_pos rfl, numberMarker, made]
        rfl
      refine ⟨_, written, ?_, ?_⟩
      · rw [List.forall_mem_append]
        refine ⟨fun x held => visible_digit ?_, List.forall_mem_singleton.mpr ?_⟩
        · exact Nat.isDigit_of_mem_toDigits (by decide) (by decide) held
        · rcases delimiter with rfl | rfl <;> decide
      · rw [itemMark_number_iff delimiter]
        simp only [true_imp_iff]
        omega

-----------------------------------------------------------------------------------------
-- The lines of an item
-----------------------------------------------------------------------------------------

/-- A line that continues an item behind an indentation; an empty one stays empty. -/
def continued (k : Nat) (line : Chars) : Chars :=
  if line.isEmpty then [] else List.replicate k ' ' ++ line

theorem lines_indentContinuation (single : '\n' ∉ s) (k : Nat) (content : Chars)
    : ∃ line,
        Chars.lines (s ++ indentContinuation (List.replicate k ' ') content)
          = (s ++ line) :: (Chars.lines content).tail.map (continued k) := by
  have free : ∀ line ∈ Chars.lines content, '\n' ∉ line :=
    fun line held => Chars.not_mem_of_mem_splitAt held
  unfold indentContinuation
  cases split : Chars.lines content with
  | nil => exact absurd split (Chars.lines_ne_nil content)
  | cons line rest =>
      rw [split, List.forall_mem_cons] at free
      refine ⟨line, ?_⟩
      dsimp only
      rw [Chars.append_join]
      refine Chars.lines_join (List.forall_mem_cons.mpr ⟨?_, ?_⟩) (List.cons_ne_nil _ _)
      · exact fun feed => (List.mem_append.mp feed).elim single free.1
      · intro written held feed
        obtain ⟨source, inside, rfl⟩ := List.mem_map.mp held
        split at feed
        · cases feed
        · rcases List.mem_append.mp feed with indent | text
          · exact absurd (List.eq_of_mem_replicate indent) (by decide)
          · exact free.2 source inside text

theorem stripEnd_marker (visible : ∀ x ∈ mark, Text.isBlank x = false)
    (task : Option TaskState)
    : ∃ first,
        Chars.stripEnd (mark ++ [' '] ++ checkbox task) = mark ++ first
        ∧ '\n' ∉ first ∧ ∀ x, first.head? = some x → x = ' ' := by
  have blank : ∀ x ∈ [' '], Text.isBlank x = true := List.forall_mem_singleton.mpr (by decide)
  have boxed : ∀ box : Chars,
      Chars.stripEnd (mark ++ [' '] ++ (box ++ [']', ' '])) = mark ++ (' ' :: (box ++ [']'])) := by
    intro box
    have shape : mark ++ [' '] ++ (box ++ [']', ' ']) = (mark ++ ' ' :: box) ++ [']'] ++ [' '] := by simp
    rw [shape, Chars.stripEnd, Chars.dropEndWhile_append blank, Chars.dropEndWhile_concat (by decide)]
    simp
  rcases task with - | - | -
  · refine ⟨[], ?_, by simp, by simp⟩
    rw [checkbox, List.append_nil, Chars.stripEnd, Chars.dropEndWhile_append blank, List.append_nil]
    exact Chars.dropEndWhile_of_getLast? (fun x last => visible x (List.mem_of_getLast? last))
  · exact ⟨_, boxed ['[', 'x'], by decide, by simp⟩
  · exact ⟨_, boxed ['[', ' '], by decide, by simp⟩

/-- The lines of an item: its mark, and the further lines of its content behind the indentation. -/
theorem exists_lines_itemText (visible : ∀ x ∈ mark, Text.isBlank x = false)
    (k : Nat) (task : Option TaskState) (content : Chars)
    : ∃ first,
        Chars.lines (itemText (mark ++ [' ']) (List.replicate k ' ') task content)
          = (mark ++ first) :: (Chars.lines content).tail.map (continued k)
        ∧ ∀ x, first.head? = some x → x = ' ' := by
  have single : '\n' ∉ mark := fun feed => absurd (visible _ feed) (by decide)
  cases content with
  | nil =>
      obtain ⟨first, written, free, apart⟩ := stripEnd_marker visible task
      refine ⟨first, ?_, apart⟩
      rw [itemText, if_pos List.isEmpty_nil, written]
      exact Chars.lines_of_single (fun feed => (List.mem_append.mp feed).elim single free)
  | cons y content =>
      have free : '\n' ∉ mark ++ [' '] ++ checkbox task := by
        have box : '\n' ∉ checkbox task := by rcases task with - | - | - <;> decide
        simp [single, box]
      obtain ⟨line, split⟩ := lines_indentContinuation free k (y :: content)
      refine ⟨' ' :: (checkbox task ++ line), ?_, by simp⟩
      rw [itemText, if_neg (by simp), split]
      simp

theorem continues_continued_iff
    : Continues width line (continued k line) ↔ line ≠ [] → width ≤ k ∧ k ≤ width + 3 := by
  unfold continued
  cases line with
  | nil => exact iff_of_true .blank (fun filled => absurd rfl filled)
  | cons y line =>
      rw [if_neg (by simp)]
      constructor
      · intro continues _
        generalize same : List.replicate k ' ' ++ y :: line = written at continues
        cases continues with
        | @indented _ n _ least most =>
            have length := congrArg List.length same
            simp only [List.length_append, List.length_replicate] at length
            omega
      · intro within
        obtain ⟨least, most⟩ := within (List.cons_ne_nil _ _)
        exact .indented (List.cons_ne_nil _ _) least most

/-- An item holds its content exactly if its mark is one and no line is indented too far. -/
theorem holdsItem_iff (visible : ∀ x ∈ mark, Text.isBlank x = false)
    (wide : mark.length + 1 ≤ k)
    : HoldsItem content (itemText (mark ++ [' ']) (List.replicate k ' ') task content)
      ↔ ItemMark mark ∧ ((∃ line ∈ (Chars.lines content).tail, line ≠ []) → k ≤ mark.length + 4) := by
  obtain ⟨first, lines, apart⟩ := exists_lines_itemText visible k task content
  have further : ∀ width : Nat,
      List.Forall₂ (Continues width) (Chars.lines content).tail
          ((Chars.lines content).tail.map (continued k))
        ↔ ∀ line ∈ (Chars.lines content).tail, line ≠ [] → width ≤ k ∧ k ≤ width + 3 := by
    intro width
    simp only [List.forall₂_map_right_iff, List.forall₂_same, continues_continued_iff]
  constructor
  · rintro ⟨mark', first', rest, item, split, apart', continued⟩
    obtain ⟨same, rfl⟩ := List.cons.inj (lines.symm.trans split)
    obtain rfl := mark_unique visible item.visible apart apart' same
    refine ⟨item, ?_⟩
    rintro ⟨line, held, text⟩
    have within := (further _).mp continued line held text
    omega
  · rintro ⟨item, within⟩
    refine ⟨mark, first, _, item, lines, apart, (further _).mpr ?_⟩
    intro line held text
    have bound := within ⟨line, held, text⟩
    omega

-----------------------------------------------------------------------------------------
-- Lists
-----------------------------------------------------------------------------------------

/-- The contents of the items of a list as they are written. -/
def writeContents (c : Context) (tight : Bool) : List Node → Except WriteFault (List Chars)
  | [] => .ok []
  | .flow (.listItem task) cs m :: rest => do
    let body ← writeBlocks c cs
    let later ← writeContents (c.after (.flow (.listItem task) cs m)) tight rest
    return joinBlocks (if tight then ['\n'] else ['\n', '\n']) body :: later
  | n :: _ => .error (.misplaced n.kind)

/-- An item with a number keeps its content: the number has at most nine digits, and a further line that is not
empty stands at most three columns further in than the content behind the marker. -/
def Fits (c : Context) (ordered : Bool) (bullet : Option Chars) (number : Int) (content : Chars) : Prop :=
  (ordered = true → number ≤ 999999999)
  ∧ ((∃ line ∈ (Chars.lines content).tail, line ≠ []) →
      c.options.indentWidth ≤ (c.itemMarker ordered bullet number).length + 3)

variable {ordered tight : Bool} {bullet : Option Chars} {number : Int} {nodes : List Node}

theorem holdsItem_marker_iff (c : Context) (ordered : Bool) (bullet : Option Chars)
    (task : Option TaskState) (content : Chars) (natural : 0 ≤ number)
    : HoldsItem content
          (itemText (c.itemMarker ordered bullet number)
            (c.continuation (c.itemMarker ordered bullet number)) task content)
        ↔ Fits c ordered bullet number content := by
  obtain ⟨mark, made, visible, item⟩ := exists_mark c ordered bullet natural
  unfold Fits Context.continuation
  have wide : mark.length + 1 ≤ max (mark ++ [' ']).length c.options.indentWidth := by
    rw [List.length_append]
    exact Nat.le_max_left _ _
  rw [made, holdsItem_iff visible wide, item]
  simp only [List.length_append, List.length_singleton, Nat.max_le]
  refine and_congr_right fun _ => imp_congr_right fun _ => ?_
  omega

theorem after_keeps (c : Context) (n : Node)
    : (c.after n).options = c.options ∧ (c.after n).depth = c.depth := by
  unfold Context.after
  split <;> exact ⟨rfl, rfl⟩

theorem fits_after (c : Context) (n : Node)
    : Fits (c.after n) ordered bullet number content ↔ Fits c ordered bullet number content := by
  obtain ⟨options, depth⟩ := after_keeps c n
  have marker : (c.after n).itemMarker ordered bullet number = c.itemMarker ordered bullet number := by
    simp only [Context.itemMarker, Context.bulletMarker, Context.bullet, options, depth]
  rw [Fits, Fits, marker, options]

theorem forall_getElem?_cons {α : Type} {a : α} {as : List α} {P : Nat → α → Prop}
    : (∀ i x, (a :: as)[i]? = some x → P i x) ↔ P 0 a ∧ ∀ i x, as[i]? = some x → P (i + 1) x := by
  constructor
  · intro each
    exact ⟨each 0 a rfl, fun i x => each (i + 1) x⟩
  · rintro ⟨first, further⟩ i x at_i
    cases i with
    | zero =>
        cases at_i
        exact first
    | succ i => exact further i x at_i

/-- Items of a list are written one after the other, numbered on, each with its content. -/
theorem exists_items (items : ∀ n ∈ nodes, isItem n = true) (each : ∀ n ∈ nodes, AlwaysWritten n)
    (natural : 0 ≤ number)
    : ∃ contents texts,
        writeContents c tight nodes = .ok contents
        ∧ writeItems c ordered number tight bullet nodes = .ok texts
        ∧ (List.Forall₂ HoldsItem contents texts
          ↔ ∀ (i : Nat) content,
              contents[i]? = some content → Fits c ordered bullet (number + i) content) := by
  induction nodes generalizing c number with
  | nil => exact ⟨[], [], rfl, rfl, by simp⟩
  | cons n nodes ih =>
      obtain ⟨item, others⟩ := List.forall_mem_cons.mp items
      obtain ⟨here, later⟩ := List.forall_mem_cons.mp each
      match n, item with
      | .flow (.listItem task) cs m, _ =>
          obtain ⟨blocks, listed⟩ := exists_itemBlocks here c
          let content := joinBlocks (if tight then ['\n'] else ['\n', '\n']) blocks
          obtain ⟨contents, texts, shown, written, held⟩ :=
            @ih (c.after (.flow (.listItem task) cs m)) (number + 1) others later (by omega)
          have first := holdsItem_marker_iff c ordered bullet task content natural
          have next : ∀ i : Nat, number + 1 + i = number + (i + 1 : Nat) := by
            intro i
            omega
          refine ⟨content :: contents, itemText (c.itemMarker ordered bullet number)
            (c.continuation (c.itemMarker ordered bullet number)) task content :: texts,
            bind_eq_ok.mpr ⟨blocks, listed, bind_eq_ok.mpr ⟨contents, shown, rfl⟩⟩,
            bind_eq_ok.mpr ⟨blocks, listed, bind_eq_ok.mpr ⟨texts, written, rfl⟩⟩, ?_⟩
          rw [List.forall₂_cons, held, first, forall_getElem?_cons]
          simp only [fits_after, next, Int.natCast_zero, Int.add_zero]

/-- A list of items that can be written is written item by item, and its items hold their contents exactly if
no number has more than nine digits and no further line of an item is indented by more than three columns beyond
the content behind the marker. -/
theorem list_items_hold_iff (c : Context) (ordered tight : Bool) {start : Int} (bullet : Option Chars)
    (m : Mapping) (items : ∀ n ∈ nodes, isItem n = true) (writable : ∀ n ∈ nodes, Writable n)
    (natural : 0 ≤ start)
    : ∃ contents texts,
        writeContents c.deeper tight nodes = .ok contents
        ∧ writePiece c (.group (.list ordered start tight bullet) nodes m)
          = .ok (.plain (Chars.join (if tight then ['\n'] else ['\n', '\n']) texts))
        ∧ (List.Forall₂ HoldsItem contents texts
          ↔ ∀ (i : Nat) content,
              contents[i]? = some content → Fits c.deeper ordered bullet (start + i) content) := by
  obtain ⟨contents, texts, shown, written, held⟩ :=
    exists_items items (fun n inside => (writable n inside).alwaysWritten) natural
  exact ⟨contents, texts, shown, bind_eq_ok.mpr ⟨texts, written, rfl⟩, held⟩

/-- A list with a list of tasks in its first item, numbered past nine. -/
theorem nested_items_hold
    : let c := Context.root {}
      let paragraph := fun s : Chars => Node.flow .paragraph [.text s []] []
      let task : Node := .flow (.listItem (some .checked)) [paragraph ['b']] []
      let tasks : Node := .group (.list false 1 true none) [task] []
      let nodes : List Node :=
        [.flow (.listItem none) [paragraph ['a'], tasks] [], .flow (.listItem none) [paragraph ['c']] []]
      (∀ n ∈ nodes, isItem n = true)
      ∧ (∀ n ∈ nodes, Writable n)
      ∧ writeContents c.deeper true nodes = .ok ["a\n- [x] b".toList, ['c']]
      ∧ writePiece c (.group (.list true 9 true none) nodes [])
        = .ok (.plain "9. a\n   - [x] b\n10. c".toList)
      ∧ ∃ texts,
          "9. a\n   - [x] b\n10. c".toList = Chars.join ['\n'] texts
          ∧ List.Forall₂ HoldsItem ["a\n- [x] b".toList, ['c']] texts := by
  intro c paragraph task tasks nodes
  have single : ∀ s, Writable (paragraph s) := fun s => .flow (by simpa using .text)
  have items : ∀ n ∈ nodes, isItem n = true := by simp [nodes, isItem]
  have inner : Writable tasks :=
    .group (by simp [task, admits, isItem]) (by simpa [task] using .flow (by simpa using single _))
  have writable : ∀ n ∈ nodes, Writable n := by
    have first : Writable (.flow (.listItem none) [paragraph ['a'], tasks] []) :=
      .flow (by simpa using ⟨single _, inner⟩)
    have second : Writable (.flow (.listItem none) [paragraph ['c']] []) :=
      .flow (by simpa using single _)
    simpa [nodes] using ⟨first, second⟩
  have shown : writeContents c.deeper true nodes = .ok ["a\n- [x] b".toList, ['c']] :=
    ok_of_toOption (by decide +kernel)
  have known : writePiece c (.group (.list true 9 true none) nodes [])
      = .ok (.plain "9. a\n   - [x] b\n10. c".toList) := ok_of_toOption (by decide +kernel)
  obtain ⟨contents, texts, made, written, held⟩ :=
    list_items_hold_iff c true true none [] items writable (show (0 : Int) ≤ 9 by decide)
  obtain rfl := Except.ok.inj (shown.symm.trans made)
  have joined := Piece.plain.inj (Except.ok.inj (known.symm.trans written))
  refine ⟨items, writable, shown, known, texts, joined, held.mpr ?_⟩
  intro i content at_i
  obtain ⟨within, -⟩ := List.getElem?_eq_some_iff.mp at_i
  have two : i < 2 := within
  refine ⟨fun _ => by omega, fun _ => ?_⟩
  exact (show 2 ≤ 3 by decide).trans (Nat.le_add_left 3 _)

/-- The number behind the longest one has ten digits, and at eight columns the second paragraph of an item is
code. -/
theorem long_number_and_wide_indent_fail
    : let item := fun nodes : List Node => Node.flow (.listItem none) nodes []
      let wide : Context := .root { indentWidth := 8 }
      writePiece (.root {})
          (.group (.list true 999999999 true none) [item [.text ['a'] []], item [.text ['b'] []]] [])
        = .ok (.plain "999999999. a\n1000000000. b".toList)
      ∧ ¬ HoldsItem ['b'] "1000000000. b".toList
      ∧ writePiece wide
          (.group (.list false 1 false none) [item [.text ['a'] [], .text ['b'] []]] [])
        = .ok (.plain "- a\n\n        b".toList)
      ∧ ¬ HoldsItem "a\n\nb".toList "- a\n\n        b".toList := by
  intro item wide
  refine ⟨ok_of_toOption (by decide +kernel), ?_, ok_of_toOption (by decide +kernel), ?_⟩
  · have text : itemText "1000000000. ".toList ((Context.root {}).continuation "1000000000. ".toList)
        none ['b'] = "1000000000. b".toList := by decide +kernel
    have marker : (Context.root {}).itemMarker true none 1000000000 = "1000000000. ".toList := by
      decide +kernel
    have holds := holdsItem_marker_iff (.root {}) true none none ['b']
      (show (0 : Int) ≤ 1000000000 by decide)
    rw [marker, text] at holds
    rw [holds]
    exact fun fits => absurd (fits.1 rfl) (by decide)
  · have holds := holdsItem_marker_iff wide false none none "a\n\nb".toList (show (0 : Int) ≤ 1 by decide)
    have text : itemText (wide.itemMarker false none 1) (wide.continuation (wide.itemMarker false none 1))
        none "a\n\nb".toList = "- a\n\n        b".toList := by decide +kernel
    rw [text] at holds
    rw [holds]
    rintro ⟨-, indented⟩
    exact absurd (indented ⟨['b'], by decide, by decide⟩) (by decide)

end MixedScript.Markdown
