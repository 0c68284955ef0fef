import MixedScript.Proofs.Encoding.Units
import Mathlib.Data.Nat.Bitwise

/-! The tables of GB 18030. No character stands in them twice: the runs share no value with each other nor with
the characters of two bytes, and of these none stands at two places. So the place of a character is the one
that it was read from. -/

namespace MixedScript.Encoding.Gb18030

variable {runs : List (Nat × Nat × Nat)} {r : Nat × Nat × Nat} {place n seen dots bound : Nat} {c : Char}
  {cs : Chars} {rows : List String}

-----------------------------------------------------------------------------------------
-- Runs
-----------------------------------------------------------------------------------------

/-- A run takes on a value. -/
def HasValue (r : Nat × Nat × Nat) (n : Nat) : Prop :=
  r.2.1 ≤ n ∧ n < r.2.1 + r.2.2

/-- Two runs without a common value. -/
def Apart (r q : Nat × Nat × Nat) : Prop :=
  ∀ n, HasValue r n → ¬ HasValue q n

/-- What stands at a place is a value of a run, and the place follows from the run and the value. -/
theorem valueAt?_eq_some (found : valueAt? runs place = some n)
    : ∃ r ∈ runs, HasValue r n ∧ r.1 + (n - r.2.1) = place := by
  obtain ⟨⟨start, first, length⟩, here, rfl⟩ := Option.map_eq_some_iff.mp found
  have within := List.find?_some here
  simp only [Bool.and_eq_true, decide_eq_true_eq] at within
  refine ⟨_, List.mem_of_find?_eq_some here, ⟨?_, ?_⟩, ?_⟩ <;> dsimp only <;> omega

/-- A value that only one run takes on is found there. -/
theorem placeOf?_eq_some (apart : runs.Pairwise Apart) (held : r ∈ runs) (value : HasValue r n)
    : placeOf? runs n = some (r.1 + (n - r.2.1)) := by
  unfold placeOf?
  rw [Option.map_eq_some_iff]
  refine ⟨r, ?_, rfl⟩
  induction runs with
  | nil => cases held
  | cons q runs ih =>
      obtain ⟨ahead, apart⟩ := List.pairwise_cons.mp apart
      rcases List.mem_cons.mp held with rfl | held
      · exact List.find?_cons_of_pos (by simpa [HasValue] using value)
      · have other : ¬ HasValue q n := fun both => ahead r held n both value
        rw [List.find?_cons_of_neg (by simpa [HasValue] using other)]
        exact ih apart held

theorem placeOf?_eq_none (absent : ∀ r ∈ runs, ¬ HasValue r n)
    : placeOf? runs n = none := by
  rw [placeOf?, Option.map_eq_none_iff, List.find?_eq_none]
  intro r held
  simpa [HasValue] using absent r held

-----------------------------------------------------------------------------------------
-- Sets of numbers as bits
-----------------------------------------------------------------------------------------

/-- The numbers from a first one on. -/
def spanBits (first length : Nat) : Nat :=
  (2 ^ length - 1) <<< first

theorem testBit_spanBits {first length : Nat}
    : (spanBits first length).testBit n = true ↔ first ≤ n ∧ n < first + length := by
  simp only [spanBits, Nat.testBit_shiftLeft, Nat.testBit_two_pow_sub_one, Bool.and_eq_true,
    decide_eq_true_eq]
  omega

/-- The values of runs. -/
def valueBits : List (Nat × Nat × Nat) → Nat
  | [] => 0
  | r :: rest => spanBits r.2.1 r.2.2 ||| valueBits rest

/-- The places of runs. -/
def placeBits : List (Nat × Nat × Nat) → Nat
  | [] => 0
  | r :: rest => spanBits r.1 r.2.2 ||| placeBits rest

/-- Whether runs have no value in common with each other, nor one that has been seen. -/
def areApart (seen : Nat) : List (Nat × Nat × Nat) → Bool
  | [] => true
  | r :: rest =>
    seen &&& spanBits r.2.1 r.2.2 == 0 && areApart (seen ||| spanBits r.2.1 r.2.2) rest

theorem testBit_valueBits
    : (valueBits runs).testBit n = true ↔ ∃ r ∈ runs, HasValue r n := by
  induction runs with
  | nil => simp [valueBits]
  | cons r runs ih =>
      simp only [valueBits, Nat.testBit_or, Bool.or_eq_true, testBit_spanBits, ih, List.mem_cons,
        exists_eq_or_imp]
      rfl

/-- There is a value at every place of runs. -/
theorem valueAt?_isSome (held : (placeBits runs).testBit place = true)
    : (valueAt? runs place).isSome = true := by
  rw [valueAt?, Option.isSome_map]
  induction runs with
  | nil => simp [placeBits] at held
  | cons r runs ih =>
      simp only [placeBits, Nat.testBit_or, Bool.or_eq_true, testBit_spanBits] at held
      by_cases here : r.1 ≤ place ∧ place < r.1 + r.2.2
      · rw [List.find?_cons_of_pos (by simpa using here)]
        rfl
      · rw [List.find?_cons_of_neg (by simpa using here)]
        exact ih (held.resolve_left here)

theorem of_areApart (h : areApart seen runs = true)
    : (∀ r ∈ runs, ∀ n, HasValue r n → seen.testBit n = false) ∧ runs.Pairwise Apart := by
  induction runs generalizing seen with
  | nil => simp
  | cons r runs ih =>
      simp only [areApart, Bool.and_eq_true, beq_iff_eq] at h
      obtain ⟨fresh, rest⟩ := h
      obtain ⟨later, apart⟩ := ih rest
      have first : ∀ n, HasValue r n → seen.testBit n = false := by
        intro n value
        have none := congrArg (fun bits => bits.testBit n) fresh
        simpa [Nat.testBit_and, testBit_spanBits.mpr value] using none
      refine ⟨List.forall_mem_cons.mpr ⟨first, fun q held n value => ?_⟩,
        List.pairwise_cons.mpr ⟨fun q held n value both => ?_, apart⟩⟩
      · have unseen := later q held n value
        rw [Nat.testBit_or, Bool.or_eq_false_iff] at unseen
        exact unseen.1
      · have unseen := later q held n both
        rw [Nat.testBit_or, Bool.or_eq_false_iff, testBit_spanBits.mpr value] at unseen
        cases unseen.2

-----------------------------------------------------------------------------------------
-- The runs of the tables
-----------------------------------------------------------------------------------------

/-- Values that no run takes on, as runs: the characters of one byte, and what is no character. -/
def reservedRuns : List (Nat × Nat × Nat) :=
  [(0, 0, 0x80), (0, 0xD800, 0x800)]

theorem allRuns_apart
    : (reservedRuns ++ (privateRuns ++ fourByteRuns)).Pairwise Apart := by
  have apart : areApart 0 (reservedRuns ++ (privateRuns ++ fourByteRuns)) = true := by
    decide +kernel
  exact (of_areApart apart).2

theorem privateRuns_apart
    : privateRuns.Pairwise Apart :=
  (List.pairwise_append.mp (List.pairwise_append.mp allRuns_apart).2.1).1

theorem fourByteRuns_apart
    : fourByteRuns.Pairwise Apart :=
  (List.pairwise_append.mp (List.pairwise_append.mp allRuns_apart).2.1).2.1

theorem private_apart_fourByte {q : Nat × Nat × Nat} (first : r ∈ privateRuns) (second : q ∈ fourByteRuns)
    : Apart r q :=
  (List.pairwise_append.mp (List.pairwise_append.mp allRuns_apart).2.1).2.2 r first q second

theorem end_le_of_mem (held : r ∈ privateRuns ++ fourByteRuns)
    : r.2.1 + r.2.2 ≤ 0x10000 := by
  have every : ∀ r ∈ privateRuns ++ fourByteRuns, r.2.1 + r.2.2 ≤ 0x10000 := by
    decide +kernel
  exact every r held

/-- A value of a run is the code of a character of the basic plane beyond the ASCII range. -/
theorem code_of_hasValue (held : r ∈ privateRuns ++ fourByteRuns) (value : HasValue r n)
    : 0x80 ≤ n ∧ n < 0x10000 ∧ (Char.ofNat n).toNat = n := by
  have reserved := (List.pairwise_append.mp allRuns_apart).2.2
  have low : ¬ HasValue (0, 0, 0x80) n := fun both => reserved _ (by simp [reservedRuns]) r held n both value
  have noCharacter : ¬ HasValue (0, 0xD800, 0x800) n :=
    fun both => reserved _ (by simp [reservedRuns]) r held n both value
  have bound := end_le_of_mem held
  simp only [HasValue] at low noCharacter value
  refine ⟨by omega, by omega, toNat_charOfNat ?_⟩
  rw [Nat.isValidChar]
  omega

-----------------------------------------------------------------------------------------
-- The rows of the table
-----------------------------------------------------------------------------------------

/-- Whether full stops stand at given places only, and every other character has not been seen before and
has a code below a bound. -/
def distinctFrom (dots bound place seen : Nat) : Chars → Bool
  | [] => seen < 2 ^ bound
  | c :: cs =>
    let n := c.toNat
    bif n == '.'.toNat then dots.testBit place && distinctFrom dots bound (place + 1) seen cs
    else !seen.testBit n && distinctFrom dots bound (place + 1) (seen ||| 2 ^ n) cs

theorem lt_of_distinctFrom (h : distinctFrom dots bound place seen cs = true)
    : seen < 2 ^ bound := by
  induction cs generalizing place seen with
  | nil => simpa only [distinctFrom, decide_eq_true_eq] using h
  | cons c cs ih =>
      simp only [distinctFrom, cond_eq_ite] at h
      split at h
      · exact ih (Bool.and_eq_true_iff.mp h).2
      · exact Nat.lt_of_le_of_lt Nat.left_le_or (ih (Bool.and_eq_true_iff.mp h).2)

/-- By induction on the characters: what has been seen grows by each, so none comes again. -/
theorem of_distinctFrom (h : distinctFrom dots bound place seen cs = true) {i : Nat} (here : cs[i]? = some c)
    : (c = '.' → dots.testBit (place + i) = true)
      ∧ (c ≠ '.' → seen.testBit c.toNat = false ∧ c.toNat < bound ∧ cs.findIdx? (· == c) = some i) := by
  induction cs generalizing place seen i with
  | nil => cases here
  | cons d cs ih =>
      simp only [distinctFrom, cond_eq_ite, beq_iff_eq] at h
      by_cases dot : d = '.'
      · rw [if_pos (congrArg Char.toNat dot), Bool.and_eq_true] at h
        cases i with
        | zero =>
            obtain rfl := Option.some.inj here
            exact ⟨fun _ => h.1, fun other => absurd dot other⟩
        | succ i =>
            obtain ⟨placed, found⟩ := ih h.2 here
            refine ⟨fun same => ?_, fun other => ?_⟩
            · rw [← placed same]
              congr 1
              omega
            · obtain ⟨unseen, basic, index⟩ := found other
              have apart : (d == c) = false := by simpa [dot] using Ne.symm other
              exact ⟨unseen, basic, by simp [List.findIdx?_cons, apart, index]⟩
      · rw [if_neg (fun same => dot (Char.toNat_inj.mp same)), Bool.and_eq_true,
          Bool.not_eq_true'] at h
        cases i with
        | zero =>
            obtain rfl := Option.some.inj here
            refine ⟨fun same => absurd same dot, fun _ => ⟨h.1, ?_, by simp [List.findIdx?_cons]⟩⟩
            have small := Nat.lt_of_le_of_lt Nat.right_le_or (lt_of_distinctFrom h.2)
            exact (Nat.pow_lt_pow_iff_right (by decide)).mp small
        | succ i =>
            obtain ⟨placed, found⟩ := ih h.2 here
            refine ⟨fun same => ?_, fun other => ?_⟩
            · rw [← placed same]
              congr 1
              omega
            · obtain ⟨unseen, basic, index⟩ := found other
              rw [Nat.testBit_or, Bool.or_eq_false_iff] at unseen
              have apart : (d == c) = false := by
                rw [beq_eq_false_iff_ne]
                rintro rfl
                rw [Nat.testBit_two_pow_self] at unseen
                cases unseen.2
              exact ⟨unseen.1, basic, by simp [List.findIdx?_cons, apart, index]⟩

/-- The characters of two bytes in order. -/
def cells : Chars :=
  doubleByteRows.flatMap String.toList

theorem spelled_cons {css : List Chars} {row : String} (first : row = String.ofList cs)
    (rest : rows = css.map String.ofList)
    : row :: rows = (cs :: css).map String.ofList := by
  rw [first, rest, List.map_cons]

-- One row after the other is taken apart into its characters, which makes the check quick.
set_option maxRecDepth 100000 in
theorem doubleByteRows_spelled
    : ∃ css : List Chars,
        doubleByteRows = css.map String.ofList
        ∧ css.all (·.length == rowLength) = true
        ∧ distinctFrom (placeBits privateRuns) 0x10000 0
              (valueBits (reservedRuns ++ (privateRuns ++ fourByteRuns))) css.flatten
            = true := by
  apply Exists.intro
  apply And.intro
  · repeat' (first | exact List.map_nil.symm | apply spelled_cons rfl)
  · decide +kernel

theorem length_of_mem_rows
    : ∀ row ∈ doubleByteRows, row.toList.length = rowLength := by
  obtain ⟨css, rows, lengths, -⟩ := doubleByteRows_spelled
  intro row held
  rw [rows] at held
  obtain ⟨cs, within, rfl⟩ := List.mem_map.mp held
  rw [String.toList_ofList]
  exact beq_iff_eq.mp (List.all_eq_true.mp lengths cs within)

theorem cells_distinct
    : distinctFrom (placeBits privateRuns) 0x10000 0
          (valueBits (reservedRuns ++ (privateRuns ++ fourByteRuns))) cells
        = true := by
  obtain ⟨css, rows, -, distinct⟩ := doubleByteRows_spelled
  have same : cells = css.flatten := by
    rw [cells, rows, List.flatMap_map]
    simp [List.flatMap_id']
  exact (congrArg (distinctFrom _ _ _ _) same).trans distinct

/-- In rows of one length, a place is that of a row and that in the row. -/
theorem getElem?_rows (lengths : ∀ row ∈ rows, row.toList.length = rowLength) (place : Nat)
    : (rows.flatMap String.toList)[place]?
      = (do
          let row ← rows[place / rowLength]?
          row.toList[place % rowLength]?) := by
  induction rows generalizing place with
  | nil => rfl
  | cons row rows ih =>
      obtain ⟨length, lengths⟩ := List.forall_mem_cons.mp lengths
      rw [List.flatMap_cons]
      by_cases first : place < rowLength
      · rw [List.getElem?_append_left (by omega), Nat.div_eq_of_lt first, Nat.mod_eq_of_lt first]
        rfl
      · obtain ⟨rest, rfl⟩ : ∃ rest, place = rest + rowLength := ⟨place - rowLength, by omega⟩
        rw [List.getElem?_append_right (by omega), length, Nat.add_sub_cancel, ih lengths,
          Nat.add_div_right _ (by decide), Nat.add_mod_right]
        rfl

theorem findInRows_eq (lengths : ∀ row ∈ rows, row.toList.length = rowLength) (c : Char) (place : Nat)
    : findInRows c place rows = ((rows.flatMap String.toList).findIdx? (· == c)).map (place + ·) := by
  induction rows generalizing place with
  | nil => rfl
  | cons row rows ih =>
      obtain ⟨length, lengths⟩ := List.forall_mem_cons.mp lengths
      rw [List.flatMap_cons, findInRows, List.findIdx?_append, ih lengths, length]
      cases row.toList.findIdx? (· == c) with
      | some i => rfl
      | none =>
          simp only [Option.none_or, Option.map_map]
          congr 1
          funext i
          simp only [Function.comp_apply]
          omega

-----------------------------------------------------------------------------------------
-- Characters and their places
-----------------------------------------------------------------------------------------

/-- A character of the table that stands for itself is in no run, and found where it stands. -/
theorem of_cell (here : cells[place]? = some c) (own : valueAt? privateRuns place = none)
    : (∀ r ∈ privateRuns ++ fourByteRuns, ¬ HasValue r c.toNat)
      ∧ 0x80 ≤ c.toNat ∧ c.toNat < 0x10000
      ∧ findInRows c 0 doubleByteRows = some place := by
  obtain ⟨placed, found⟩ := of_distinctFrom cells_distinct here
  have other : c ≠ '.' := by
    intro same
    have held := valueAt?_isSome (Nat.zero_add place ▸ placed same)
    rw [own] at held
    cases held
  obtain ⟨unseen, basic, index⟩ := found other
  have absent : ∀ r ∈ reservedRuns ++ (privateRuns ++ fourByteRuns), ¬ HasValue r c.toNat := by
    intro r held value
    rw [testBit_valueBits.mpr ⟨r, held, value⟩] at unseen
    cases unseen
  have low : ¬ HasValue (0, 0, 0x80) c.toNat := absent _ (by simp [reservedRuns])
  simp only [HasValue] at low
  refine ⟨fun r held => absent r (List.mem_append_right _ held), by omega, basic, ?_⟩
  rw [findInRows_eq length_of_mem_rows, ← cells, index]
  simp

/-- A character of two bytes is written as those of its place. -/
theorem encodeChar_of_doubleByteChar? (read : doubleByteChar? place = some c)
    : encodeChar c = doubleBytes place := by
  unfold doubleByteChar? at read
  split at read
  · next n found =>
      obtain rfl := Option.some.inj read
      obtain ⟨r, held, value, rfl⟩ := valueAt?_eq_some found
      obtain ⟨above, basic, code⟩ := code_of_hasValue (List.mem_append_left _ held) value
      have four : placeOf? fourByteRuns n = none :=
        placeOf?_eq_none fun q other => private_apart_fourByte held other n value
      simp only [encodeChar, code]
      rw [if_neg (by omega), if_neg (by omega), four, placeOf?_eq_some privateRuns_apart held value]
      rfl
  · next own =>
      have here : cells[place]? = some c := by
        rw [cells, getElem?_rows length_of_mem_rows]
        exact read
      obtain ⟨absent, above, basic, found⟩ := of_cell here own
      have four : placeOf? fourByteRuns c.toNat = none :=
        placeOf?_eq_none fun r held => absent r (List.mem_append_right _ held)
      have two : placeOf? privateRuns c.toNat = none :=
        placeOf?_eq_none fun r held => absent r (List.mem_append_left _ held)
      simp only [encodeChar]
      rw [if_neg (by omega), if_neg (by omega), four, two, found]
      rfl

/-- A character of four bytes is written as those of its place. -/
theorem encodeChar_of_fourByteChar? (read : fourByteChar? place = some c)
    : encodeChar c = fourBytes place := by
  unfold fourByteChar? at read
  split at read
  · obtain ⟨n, found, rfl⟩ := Option.map_eq_some_iff.mp read
    obtain ⟨r, held, value, rfl⟩ := valueAt?_eq_some found
    obtain ⟨above, basic, code⟩ := code_of_hasValue (List.mem_append_right _ held) value
    simp only [encodeChar, code]
    rw [if_neg (by omega), if_neg (by omega), placeOf?_eq_some fourByteRuns_apart held value]
  · split at read
    · next beyond =>
        obtain rfl := Option.some.inj read
        simp only [Bool.and_eq_true, decide_eq_true_eq] at beyond
        have code : (Char.ofNat (0x10000 + (place - supplementaryStart))).toNat
            = 0x10000 + (place - supplementaryStart) :=
          toNat_charOfNat (.inr ⟨by omega, by omega⟩)
        have back : supplementaryStart + (0x10000 + (place - supplementaryStart) - 0x10000) = place := by omega
        simp only [encodeChar, code]
        rw [if_neg (by omega), if_pos (by omega), back]
    · cases read

end MixedScript.Encoding.Gb18030
