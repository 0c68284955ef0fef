import MixedScript.Encoding.Codec
import MixedScript.Proofs.Encoding.Utf8
import Mathlib.Data.List.Basic

/-! Texts in single bytes and in units of sixteen bits. A character is written as the bytes that it was
read from; of units, every text has the bytes that it is read from. -/

namespace MixedScript.Encoding

variable {bs : Bytes} {cs : Chars} {c : Char} {u : Nat} {us : List Nat} {big : Bool}

theorem toNat_charOfNat {n : Nat} (valid : n.isValidChar)
    : (Char.ofNat n).toNat = n :=
  Utf8.toNat_ofNat valid

-----------------------------------------------------------------------------------------
-- Single bytes
-----------------------------------------------------------------------------------------

/-- What is undone element by element is undone for a whole list. -/
theorem mapM_undone {α β : Type} {f : α → Option β} {g : β → Option α} {xs : List α} {ys : List β}
    (undone : ∀ x y, f x = some y → g y = some x) (made : xs.mapM f = some ys)
    : ys.mapM g = some xs := by
  induction xs generalizing ys with
  | nil =>
      obtain rfl := Option.some.inj made
      rfl
  | cons x xs ih =>
      simp only [List.mapM_cons, Option.bind_eq_bind, Option.bind_eq_some_iff, Option.pure_def,
        Option.some.injEq] at made
      obtain ⟨y, first, later, rest, rfl⟩ := made
      simp [List.mapM_cons, undone x y first, ih rest]

/-- A character below a bound is its byte. -/
theorem encodeBelow_of_decodeBelow {bound : Nat} (small : bound ≤ 0x100)
    (read : decodeBelow bound bs = some cs)
    : encodeBelow bound cs = some bs := by
  refine mapM_undone (fun b c read => ?_) read
  split at read
  · next below =>
      obtain rfl := Option.some.inj read
      rw [toNat_charOfNat (.inl (by omega)), if_pos below, UInt8.ofNat_toNat]
  · cases read

-----------------------------------------------------------------------------------------
-- Units
-----------------------------------------------------------------------------------------

/-- The value of two bytes, the greater second or first. -/
def unitOf (big : Bool) (a b : UInt8) : Nat :=
  if big then 256 * a.toNat + b.toNat else a.toNat + 256 * b.toNat

theorem units?_cons (a b : UInt8) (rest : Bytes)
    : units? big (a :: b :: rest) = (units? big rest).map (unitOf big a b :: ·) := by
  rw [units?]
  rfl

theorem unitBytes_unitOf (a b : UInt8)
    : unitBytes big (unitOf big a b) = [a, b] := by
  have low := a.toNat_lt
  have high := b.toNat_lt
  cases big
  · simp only [unitBytes, unitOf, Bool.false_eq_true, if_false]
    rw [Utf8.eq_of_toNat (b := a) (by omega), Utf8.eq_of_toNat (b := b) (by omega)]
  · simp only [unitBytes, unitOf, if_true]
    rw [Utf8.eq_of_toNat (b := a) (by omega), Utf8.eq_of_toNat (b := b) (by omega)]

theorem unitOf_lt (a b : UInt8)
    : unitOf big a b < 0x10000 := by
  have low := a.toNat_lt
  have high := b.toNat_lt
  unfold unitOf
  split_ifs <;> omega

theorem units?_unitBytes (small : u < 0x10000) (rest : Bytes)
    : units? big (unitBytes big u ++ rest) = (units? big rest).map (u :: ·) := by
  have low : (UInt8.ofNat (u % 256)).toNat = u % 256 := by
    rw [UInt8.toNat_ofNat']
    omega
  have high : (UInt8.ofNat (u / 256)).toNat = u / 256 := by
    rw [UInt8.toNat_ofNat']
    omega
  have whole : u % 256 + 256 * (u / 256) = u := by omega
  have turned : 256 * (u / 256) + u % 256 = u := by omega
  cases big
  · simp [unitBytes, units?_cons, unitOf, low, high, whole]
  · simp [unitBytes, units?_cons, unitOf, low, high, turned]

/-- Units are read from their bytes. -/
theorem units?_eq_some_iff
    : units? big bs = some us ↔ us.flatMap (unitBytes big) = bs ∧ ∀ u ∈ us, u < 0x10000 := by
  constructor
  · intro read
    induction bs using units?.induct generalizing us with
    | case1 =>
        obtain rfl := Option.some.inj read
        exact ⟨rfl, by simp⟩
    | case2 b => cases read
    | case3 a b rest ih =>
        rw [units?_cons] at read
        obtain ⟨later, behind, rfl⟩ := Option.map_eq_some_iff.mp read
        obtain ⟨bytes, small⟩ := ih behind
        refine ⟨by rw [List.flatMap_cons, unitBytes_unitOf, bytes]; rfl, ?_⟩
        exact List.forall_mem_cons.mpr ⟨unitOf_lt a b, small⟩
  · rintro ⟨rfl, small⟩
    induction us with
    | nil => rfl
    | cons u us ih =>
        rw [List.flatMap_cons, units?_unitBytes (small u (by simp)),
          ih fun v held => small v (List.mem_cons_of_mem u held)]
        rfl

theorem unitsOf_lt (c : Char)
    : ∀ u ∈ unitsOf c, u < 0x10000 := by
  have valid : c.toNat.isValidChar := c.valid
  rw [Nat.isValidChar] at valid
  unfold unitsOf
  split_ifs <;> simp <;> omega

/-- A character beyond the basic plane is a pair of units. -/
theorem unitsOf_pair {v : Nat} (first : 0xD800 ≤ u ∧ u ≤ 0xDBFF) (second : 0xDC00 ≤ v ∧ v ≤ 0xDFFF)
    : unitsOf (Char.ofNat (0x10000 + 0x400 * (u - 0xD800) + (v - 0xDC00))) = [u, v] := by
  generalize code : 0x10000 + 0x400 * (u - 0xD800) + (v - 0xDC00) = n
  have value : (Char.ofNat n).toNat = n := toNat_charOfNat (.inr ⟨by omega, by omega⟩)
  have high : 0xD800 + (n - 0x10000) / 0x400 = u := by omega
  have low : 0xDC00 + (n - 0x10000) % 0x400 = v := by omega
  rw [unitsOf, value, if_neg (by omega), high, low]

theorem unitsOf_single (small : u < 0x10000) (first : ¬ (0xD800 ≤ u ∧ u ≤ 0xDBFF))
    (second : ¬ (0xDC00 ≤ u ∧ u ≤ 0xDFFF))
    : unitsOf (Char.ofNat u) = [u] := by
  have value : (Char.ofNat u).toNat = u := by
    apply toNat_charOfNat
    rw [Nat.isValidChar]
    omega
  rw [unitsOf, value, if_pos small]

theorem textOfUnits?_unitsOf (c : Char) (rest : List Nat)
    : textOfUnits? (unitsOf c ++ rest) = (textOfUnits? rest).map (c :: ·) := by
  have valid : c.toNat.isValidChar := c.valid
  rw [Nat.isValidChar] at valid
  unfold unitsOf
  split_ifs with basic
  · have first : (decide (0xD800 ≤ c.toNat) && decide (c.toNat ≤ 0xDBFF)) = false := by simp; omega
    have second : (decide (0xDC00 ≤ c.toNat) && decide (c.toNat ≤ 0xDFFF)) = false := by simp; omega
    rw [List.singleton_append, textOfUnits?.eq_def (c.toNat :: rest)]
    simp only [first, second, Bool.false_eq_true, if_false, Char.ofNat_toNat]
  · generalize high : 0xD800 + (c.toNat - 0x10000) / 0x400 = u
    generalize low : 0xDC00 + (c.toNat - 0x10000) % 0x400 = v
    have first : (decide (0xD800 ≤ u) && decide (u ≤ 0xDBFF)) = true := by simp; omega
    have second : (decide (0xDC00 ≤ v) && decide (v ≤ 0xDFFF)) = true := by simp; omega
    have whole : 0x10000 + 0x400 * (u - 0xD800) + (v - 0xDC00) = c.toNat := by omega
    rw [List.cons_append, List.singleton_append, textOfUnits?, if_pos first]
    simp only [second, if_true, whole, Char.ofNat_toNat]

/-- Units are read as a text exactly if they are the units of the text. -/
theorem textOfUnits?_eq_some_iff (small : ∀ u ∈ us, u < 0x10000)
    : textOfUnits? us = some cs ↔ cs.flatMap unitsOf = us := by
  constructor
  · intro read
    induction us using textOfUnits?.induct generalizing cs with
    | case1 =>
        obtain rfl := Option.some.inj read
        rfl
    | case2 u first v rest second ih =>
        rw [textOfUnits?, if_pos first] at read
        simp only [second, if_true] at read
        obtain ⟨later, behind, rfl⟩ := Option.map_eq_some_iff.mp read
        simp only [Bool.and_eq_true, decide_eq_true_eq] at first second
        rw [List.flatMap_cons, unitsOf_pair first second,
          ih (fun w held => small w (by simp [held])) behind]
        rfl
    | case3 u first v rest second =>
        rw [textOfUnits?, if_pos first] at read
        simp only [second] at read
        cases read
    | case4 u first =>
        rw [textOfUnits?, if_pos first] at read
        cases read
    | case5 u rest first second =>
        rw [textOfUnits?.eq_def] at read
        simp only [if_neg first, if_pos second] at read
        cases read
    | case6 u rest first second ih =>
        rw [textOfUnits?.eq_def] at read
        simp only [if_neg first, if_neg second] at read
        obtain ⟨later, behind, rfl⟩ := Option.map_eq_some_iff.mp read
        simp only [Bool.and_eq_true, decide_eq_true_eq] at first second
        rw [List.flatMap_cons, unitsOf_single (small u (by simp)) first second,
          ih (fun w held => small w (by simp [held])) behind]
        rfl
  · rintro rfl
    induction cs with
    | nil => rfl
    | cons c cs ih =>
        have later : ∀ u ∈ cs.flatMap unitsOf, u < 0x10000 :=
          fun u held => small u (by rw [List.flatMap_cons]; exact List.mem_append_right _ held)
        rw [List.flatMap_cons, textOfUnits?_unitsOf, ih later]
        rfl

/-- Bytes are read as a text in units exactly if they are the bytes of the text. -/
theorem decodeUnits_eq_some_iff
    : decodeUnits big bs = some cs ↔ encodeUnits big cs = bs := by
  have written : encodeUnits big cs = (cs.flatMap unitsOf).flatMap (unitBytes big) := by
    rw [encodeUnits, List.flatMap_assoc]
  have small : ∀ u ∈ cs.flatMap unitsOf, u < 0x10000 := by
    intro u held
    obtain ⟨c, -, held⟩ := List.mem_flatMap.mp held
    exact unitsOf_lt c u held
  rw [decodeUnits, Option.bind_eq_some_iff, written]
  constructor
  · rintro ⟨us, read, text⟩
    obtain ⟨bytes, bounded⟩ := units?_eq_some_iff.mp read
    rw [(textOfUnits?_eq_some_iff bounded).mp text, bytes]
  · intro bytes
    exact ⟨_, units?_eq_some_iff.mpr ⟨bytes, small⟩, (textOfUnits?_eq_some_iff small).mpr rfl⟩

end MixedScript.Encoding
