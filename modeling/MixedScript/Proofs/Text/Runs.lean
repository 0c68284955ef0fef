import MixedScript.Text.Chars
import Mathlib.Data.List.Infix

/-! Runs of one character. No run in a text is longer than the longest that is counted there. -/

namespace MixedScript.Chars

variable {c : Char} {cs : Chars} {n : Nat}

/-- A run is taken whole where something else follows it. -/
theorem takeWhile_run (ended : cs.head? ≠ some c) (n : Nat)
    : (List.replicate n c ++ cs).takeWhile (· == c) = List.replicate n c := by
  rw [List.takeWhile_append_of_pos (by simp)]
  cases cs with
  | nil => simp
  | cons x rest => simp_all

theorem le_longestRunFrom (c : Char) (current longest : Nat) (cs : Chars)
    : longest ≤ longestRunFrom c current longest cs := by
  induction cs generalizing current longest with
  | nil => exact Nat.le_refl _
  | cons x rest ih =>
      unfold longestRunFrom
      split
      · exact (Nat.le_max_left _ _).trans (ih _ _)
      · exact ih _ _

/-- A run that follows another one is counted along with it. -/
theorem longestRunFrom_replicate {current longest : Nat} (counted : current ≤ longest)
    (n : Nat) (rest : Chars)
    : current + n ≤ longestRunFrom c current longest (List.replicate n c ++ rest) := by
  induction n generalizing current longest with
  | zero => exact counted.trans (le_longestRunFrom c current longest rest)
  | succ n ih =>
      have later := @ih (current + 1) (max longest (current + 1)) (Nat.le_max_right _ _)
      rw [Nat.add_assoc, Nat.add_comm 1 n] at later
      simpa [List.replicate_succ, longestRunFrom] using later

theorem le_longestRun (run : List.replicate n c <:+: cs)
    : n ≤ longestRun c cs := by
  obtain ⟨before, after, rfl⟩ := run
  have counted : ∀ current longest : Nat, current ≤ longest →
      n ≤ longestRunFrom c current longest (before ++ (List.replicate n c ++ after)) := by
    induction before with
    | nil =>
        intro current longest counted
        exact (Nat.le_add_left n current).trans (longestRunFrom_replicate counted n after)
    | cons x before ih =>
        intro current longest counted
        rw [List.cons_append, longestRunFrom]
        split
        · exact ih _ _ (Nat.le_max_right _ _)
        · exact ih _ _ (Nat.zero_le _)
  simpa [longestRun] using counted 0 0 (Nat.le_refl 0)

theorem longestRunFrom_concat {x : Char} (other : x ≠ c) (current longest : Nat) (cs : Chars)
    : longestRunFrom c current longest (cs ++ [x]) = longestRunFrom c current longest cs := by
  induction cs generalizing current longest with
  | nil => simp [longestRunFrom, other]
  | cons y rest ih =>
      rw [List.cons_append, longestRunFrom, longestRunFrom]
      split <;> apply ih

/-- Other characters around a text do not lengthen its runs. -/
theorem longestRun_between {x y : Char} (before : x ≠ c) (behind : y ≠ c) (cs : Chars)
    : longestRun c (x :: (cs ++ [y])) = longestRun c cs := by
  have skipped : longestRun c (x :: (cs ++ [y])) = longestRun c (cs ++ [y]) := by
    simp [longestRun, longestRunFrom, before]
  rw [skipped]
  exact longestRunFrom_concat behind 0 0 cs

end MixedScript.Chars
