import MixedScript.Text.Chars
import Mathlib.Data.List.Infix

/-! Pairs of marks. A text is balanced if its closing marks are as many as its opening ones and none of them
comes too early. -/

namespace MixedScript.Chars

variable {opening closing c : Char} {opened : Nat} {cs : Chars}

/-- A text that closes all that it opens and so many opening marks before it, and nothing else. -/
structure BalancedFrom (opened : Nat) (opening closing : Char) (cs : Chars) : Prop where
  /-- Nothing is left open. -/
  even : cs.count closing = opened + cs.count opening
  /-- Nothing is closed before it is opened. -/
  ordered : ∀ start ∈ cs.inits, start.count closing ≤ opened + start.count opening

/-- A text that closes all that it opens, and nothing else. -/
abbrev Balanced (opening closing : Char) (cs : Chars) : Prop :=
  BalancedFrom 0 opening closing cs

instance : Decidable (BalancedFrom opened opening closing cs) :=
  decidable_of_iff
    (cs.count closing = opened + cs.count opening
      ∧ ∀ start ∈ cs.inits, start.count closing ≤ opened + start.count opening)
    ⟨fun h => ⟨h.1, h.2⟩, fun h => ⟨h.even, h.ordered⟩⟩

theorem balancedFrom_nil
    : BalancedFrom opened opening closing [] ↔ opened = 0 := by
  constructor
  · intro balanced
    simpa using balanced.even.symm
  · rintro rfl
    exact ⟨rfl, by simp⟩

/-- A first character that moves every balance behind it alike moves what has to be closed. -/
theorem balancedFrom_cons {moved : Nat}
    (moves : ∀ start : Chars,
      moved + start.count opening + (c :: start).count closing
        = opened + (c :: start).count opening + start.count closing)
    : BalancedFrom opened opening closing (c :: cs) ↔ BalancedFrom moved opening closing cs := by
  constructor
  · rintro ⟨even, ordered⟩
    refine ⟨by have := moves cs; omega, fun start held => ?_⟩
    have bound := ordered (c :: start) (by simpa using held)
    have := moves start
    omega
  · rintro ⟨even, ordered⟩
    refine ⟨by have := moves cs; omega, fun start held => ?_⟩
    rcases start with - | ⟨first, start⟩
    · simp
    · obtain ⟨inside, rfl⟩ : start <+: cs ∧ c = first := by simpa [eq_comm] using held
      have bound := ordered start (by simpa using inside)
      have := moves start
      omega

theorem balancedFrom_cons_other (noOpening : c ≠ opening) (noClosing : c ≠ closing)
    : BalancedFrom opened opening closing (c :: cs) ↔ BalancedFrom opened opening closing cs :=
  balancedFrom_cons (fun start => by
    rw [List.count_cons_of_ne noOpening, List.count_cons_of_ne noClosing])

theorem balancedFrom_cons_opening (apart : opening ≠ closing)
    : BalancedFrom opened opening closing (opening :: cs)
      ↔ BalancedFrom (opened + 1) opening closing cs :=
  balancedFrom_cons (fun start => by
    rw [List.count_cons_self, List.count_cons_of_ne apart]
    omega)

theorem balancedFrom_cons_closing (apart : opening ≠ closing)
    : BalancedFrom (opened + 1) opening closing (closing :: cs)
      ↔ BalancedFrom opened opening closing cs :=
  balancedFrom_cons (fun start => by
    rw [List.count_cons_self, List.count_cons_of_ne apart.symm]
    omega)

theorem not_balanced_cons_closing (apart : opening ≠ closing)
    : ¬ Balanced opening closing (closing :: cs) := by
  intro balanced
  have bound := balanced.ordered [closing] (by simp)
  simp [apart.symm] at bound

end MixedScript.Chars
