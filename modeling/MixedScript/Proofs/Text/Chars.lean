import MixedScript.Text.Chars
import Mathlib.Data.List.DropRight

/-! Cuts and searches in texts, and what they leave of the characters. -/

namespace MixedScript.Chars

variable {cs part : Chars} {x : Char}

/-- What is checked for every code point below a bound holds of every character below it. -/
theorem of_below {bound : Nat} {P : Char → Prop} (known : ∀ n < bound, P (Char.ofNat n))
    (below : x.toNat < bound)
    : P x := by
  have found := known x.toNat below
  rwa [Char.ofNat_toNat] at found

theorem dropEndWhile_eq_rdropWhile (p : Char → Bool) (cs : Chars)
    : dropEndWhile p cs = cs.rdropWhile p := by
  induction cs using List.reverseRecOn with
  | nil => rfl
  | append_singleton cs last ih =>
      have step : ∀ cs : Chars,
          dropEndWhile p (cs ++ [last])
            = if p last then dropEndWhile p cs else cs ++ [last] := by
        intro cs
        induction cs with
        | nil => rfl
        | cons c cs ih =>
            rw [List.cons_append, dropEndWhile, ih]
            by_cases dropped : p last = true
            · simp only [dropped, if_true, dropEndWhile]
            · simp only [if_neg dropped]
              cases cs <;> rfl
      rw [step, List.rdropWhile_concat, ih]

theorem mem_of_mem_dropEndWhile {p : Char → Bool} (h : x ∈ dropEndWhile p cs)
    : x ∈ cs := by
  rw [dropEndWhile_eq_rdropWhile] at h
  exact (List.rdropWhile_prefix p cs).subset h

theorem return_not_mem_unifyLineEnds (cs : Chars)
    : '\r' ∉ unifyLineEnds cs := by
  fun_induction unifyLineEnds cs with
  | case1 => simp
  | case2 rest ih => simpa using ih
  | case3 rest _ ih => simpa using ih
  | case4 c rest _ other ih => simpa [Ne.symm other] using ih

theorem after?_eq_some {rest : Chars} (h : after? part cs = some rest)
    : cs = part ++ rest := by
  fun_induction after? part cs with
  | case1 cs => simpa using h
  | case2 => cases h
  | case3 a part c cs same ih => rw [ih h, beq_iff_eq.mp same, List.cons_append]
  | case4 => cases h

/-- What occurs in a text is part of it. -/
theorem mem_of_occursIn (h : occursIn part cs = true) (held : x ∈ part)
    : x ∈ cs := by
  fun_induction occursIn part cs with
  | case1 => simp_all
  | case2 c rest ih =>
      rcases Bool.or_eq_true_iff.mp h with here | later
      · obtain ⟨rest', found⟩ := Option.isSome_iff_exists.mp here
        rw [after?_eq_some found]
        exact List.mem_append_left _ held
      · exact List.mem_cons_of_mem _ (ih later)

end MixedScript.Chars
