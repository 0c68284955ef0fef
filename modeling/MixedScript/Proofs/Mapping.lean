import MixedScript.Value
import Mathlib.Data.List.Pairwise

/-! Mappings seen through their keys: what stands under a key after a value has been put under another,
and after a mapping of plain values has been laid over. -/

namespace MixedScript

theorem Scalar.sameKey_iff {a b : Scalar}
    : a.sameKey b = true ↔ a.canonical = b.canonical := by
  rw [sameKey, beq_iff_eq]

theorem Scalar.sameKey_comm (a b : Scalar)
    : a.sameKey b = b.sameKey a := by
  rw [sameKey, sameKey, Bool.beq_comm]

/-- Keys that are the same are the same as the same keys. -/
theorem Scalar.sameKey_congr {a b : Scalar} (h : a.sameKey b = true) (c : Scalar)
    : a.sameKey c = b.sameKey c := by
  rw [sameKey, sameKey, sameKey_iff.mp h]

/-- No other key is the same as a text. -/
theorem Scalar.sameKey_str {k : Scalar} {x : String}
    : k.sameKey (.str x) = true ↔ k = .str x := by
  rw [sameKey_iff]
  cases k with
  | float f =>
      simp only [canonical]
      split <;> simp
  | bool | int | date | null | str | bytes => simp [canonical]

theorem Scalar.sameKey_ne {x y : String} (h : x ≠ y)
    : (Scalar.str x).sameKey (.str y) = false := by
  rw [Bool.eq_false_iff, ne_eq, sameKey_str]
  simpa using h

namespace Mapping

variable {key k : Scalar} {value : Value} {m base above : Mapping}

/-- No key stands twice in a mapping. -/
def Unique (m : Mapping) : Prop :=
  m.Pairwise (fun a b => a.1.sameKey b.1 = false)

-----------------------------------------------------------------------------------------
-- One value
-----------------------------------------------------------------------------------------

theorem get?_cons_same (h : k.sameKey key = true)
    : get? key ((k, value) :: m) = some value := by
  rw [get?, if_pos h]

theorem get?_cons_other (h : k.sameKey key = false)
    : get? key ((k, value) :: m) = get? key m := by
  rw [get?, if_neg (by simp [h])]

/-- A value goes to the place of its key, or behind a mapping without it. -/
theorem insert_cases (key : Scalar) (value : Value) (m : Mapping)
    : get? key m = none ∧ insert key value m = m ++ [(key, value)]
      ∨ ∃ before k old after,
          m = before ++ (k, old) :: after
          ∧ k.sameKey key = true
          ∧ get? key before = none
          ∧ get? key m = some old
          ∧ insert key value m = before ++ (k, value) :: after := by
  induction m with
  | nil => exact .inl ⟨rfl, rfl⟩
  | cons entry m ih =>
      obtain ⟨k, old⟩ := entry
      cases same : k.sameKey key with
      | true =>
          refine .inr ⟨[], k, old, m, rfl, same, rfl, get?_cons_same same, ?_⟩
          rw [insert, if_pos same, List.nil_append]
      | false =>
          have step : insert key value ((k, old) :: m) = (k, old) :: insert key value m := by
            rw [insert, if_neg (by simp [same])]
          rw [step, get?_cons_other same]
          rcases ih with ⟨absent, added⟩ | ⟨before, k', old', after, rfl, here, ahead, found, put⟩
          · exact .inl ⟨absent, by rw [added, List.cons_append]⟩
          · refine .inr ⟨(k, old) :: before, k', old', after, rfl, here, ?_, found, ?_⟩
            · rw [get?_cons_other same, ahead]
            · rw [put, List.cons_append]

theorem get?_insert (key other : Scalar) (value : Value) (m : Mapping)
    : get? other (insert key value m)
      = if key.sameKey other then some value else get? other m := by
  induction m with
  | nil => rfl
  | cons entry m ih =>
      obtain ⟨k, old⟩ := entry
      cases here : k.sameKey key with
      | true =>
          rw [insert, if_pos here, get?, get?, Scalar.sameKey_congr here]
          split <;> rfl
      | false =>
          rw [insert, if_neg (by simp [here]), get?, get?, ih]
          cases there : k.sameKey other with
          | false => rfl
          | true =>
              have apart : key.sameKey other = false := by
                rw [Scalar.sameKey_comm, ← Scalar.sameKey_congr there, here]
              rw [apart]
              rfl

/-- Under a key without entry a mapping holds nothing. -/
theorem get?_eq_none
    : get? key m = none ↔ ∀ entry ∈ m, entry.1.sameKey key = false := by
  induction m with
  | nil => simp [get?]
  | cons entry m ih =>
      cases same : entry.1.sameKey key <;> simp [get?, same, ih]

theorem Unique.tail {entry : Scalar × Value} (h : Unique (entry :: m))
    : Unique m :=
  (List.pairwise_cons.mp h).2

/-- What stands first in a mapping stands nowhere else in it. -/
theorem Unique.get?_tail (h : Unique ((k, value) :: m)) (same : k.sameKey key = true)
    : get? key m = none := by
  refine get?_eq_none.mpr fun entry held => ?_
  have apart := (List.pairwise_cons.mp h).1 entry held
  rwa [Scalar.sameKey_congr same, Scalar.sameKey_comm] at apart

/-- Where no key stands twice, what stands in a mapping is found. -/
theorem Unique.get?_of_mem (h : Unique m) (held : (key, value) ∈ m)
    : get? key m = some value := by
  induction m with
  | nil => cases held
  | cons entry m ih =>
      rcases List.mem_cons.mp held with rfl | later
      · exact get?_cons_same (Scalar.sameKey_iff.mpr rfl)
      · have apart := (List.pairwise_cons.mp h).1 _ later
        rw [get?_cons_other apart, ih h.tail later]

theorem Unique.insert (h : Unique m) (key : Scalar) (value : Value)
    : Unique (insert key value m) := by
  unfold Unique at *
  rcases insert_cases key value m with ⟨absent, added⟩ | ⟨before, k, old, after, rfl, -, -, -, put⟩
  · rw [added, List.pairwise_append]
    refine ⟨h, List.pairwise_singleton _ _, fun entry held last added => ?_⟩
    obtain rfl := List.mem_singleton.mp added
    exact get?_eq_none.mp absent entry held
  · rw [put]
    rw [List.pairwise_append, List.pairwise_cons] at h ⊢
    simpa using h

-----------------------------------------------------------------------------------------
-- A mapping of plain values
-----------------------------------------------------------------------------------------

/-- A mapping in which no mapping is nested. -/
def Plain (m : Mapping) : Prop :=
  ∀ entry ∈ m, ∃ c, entry.2 = .scalar c

theorem merge_cons (base : Mapping) (key : Scalar) (value : Value) (rest : Mapping)
    : merge base ((key, value) :: rest)
      = merge (insert key (mergeValue (base.get? key) value) base) rest := by
  rw [merge]

theorem mergeValue_scalar (below : Option Value) (c : Scalar)
    : mergeValue below (.scalar c) = .scalar c := by
  unfold mergeValue
  split
  · contradiction
  · rfl

/-- A plain value that is laid over a mapping takes the place under its key. -/
theorem Plain.merge_cons (h : Plain ((key, value) :: above))
    : merge base ((key, value) :: above) = merge (insert key value base) above := by
  obtain ⟨c, rfl⟩ := h (key, value) (by simp)
  rw [Mapping.merge_cons, mergeValue_scalar]

theorem Unique.merge (h : Unique base) (plain : Plain above)
    : Unique (merge base above) := by
  induction above generalizing base with
  | nil => exact h
  | cons entry above ih =>
      rw [plain.merge_cons]
      exact ih (h.insert ..) fun entry held => plain entry (List.mem_cons_of_mem _ held)

/-- Plain values that are laid over a mapping hide what stands under their keys, and nothing else. -/
theorem get?_merge (plain : Plain above) (unique : Unique above)
    : get? key (merge base above) = (get? key above).or (get? key base) := by
  induction above generalizing base with
  | nil => rfl
  | cons entry above ih =>
      obtain ⟨k, value⟩ := entry
      rw [plain.merge_cons, ih (fun entry held => plain entry (List.mem_cons_of_mem _ held)) unique.tail,
        get?_insert]
      cases same : k.sameKey key with
      | true =>
          have alone := unique.get?_tail same
          rw [alone, get?_cons_same same]
          rfl
      | false => rw [get?_cons_other same]; rfl

end Mapping

end MixedScript
