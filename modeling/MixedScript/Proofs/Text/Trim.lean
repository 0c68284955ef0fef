import MixedScript.Proofs.Text.Chars

/-! Texts without the characters of a class at their ends. What is left out is all of that class, and what is
left starts and ends with another character. -/

namespace MixedScript.Chars

variable {p q : Char → Bool} {cs s t : Chars} {x : Char}

-----------------------------------------------------------------------------------------
-- The end
-----------------------------------------------------------------------------------------

theorem dropEndWhile_concat (other : p x = false) (s : Chars)
    : dropEndWhile p (s ++ [x]) = s ++ [x] := by
  rw [dropEndWhile_eq_rdropWhile]
  exact List.rdropWhile_concat_neg _ _ _ (by simp [other])

theorem dropEndWhile_append (class_end : ∀ c ∈ t, p c = true) (s : Chars)
    : dropEndWhile p (s ++ t) = dropEndWhile p s := by
  induction t using List.reverseRecOn with
  | nil => rw [List.append_nil]
  | append_singleton t x ih =>
      have inside : ∀ c ∈ t, p c = true := fun c held => class_end c (List.mem_append_left _ held)
      have last : p x = true := class_end x (by simp)
      rw [← List.append_assoc, dropEndWhile_eq_rdropWhile, List.rdropWhile_concat_pos _ _ _ last,
        ← dropEndWhile_eq_rdropWhile]
      exact ih inside

/-- Nothing is dropped of what stands before a text that is not all of the class. -/
theorem dropEndWhile_append_of_ne_nil (kept : dropEndWhile p t ≠ []) (s : Chars)
    : dropEndWhile p (s ++ t) = s ++ dropEndWhile p t := by
  induction s with
  | nil => rfl
  | cons c s ih =>
      rw [List.cons_append, dropEndWhile, ih]
      have filled : s ++ dropEndWhile p t ≠ [] := List.append_ne_nil_of_right_ne_nil s kept
      obtain ⟨d, rest, shape⟩ := List.exists_cons_of_ne_nil filled
      rw [shape, List.cons_append, shape]

/-- What is dropped at the end of a text is all of the class. -/
theorem exists_dropEndWhile (p : Char → Bool) (cs : Chars)
    : ∃ t, cs = dropEndWhile p cs ++ t ∧ ∀ c ∈ t, p c = true := by
  refine ⟨cs.rtakeWhile p, ?_, fun c held => List.mem_rtakeWhile_imp held⟩
  rw [dropEndWhile_eq_rdropWhile, List.rdropWhile_append_rtakeWhile]

theorem length_dropEndWhile_le (p : Char → Bool) (cs : Chars)
    : (dropEndWhile p cs).length ≤ cs.length := by
  rw [dropEndWhile_eq_rdropWhile]
  exact (List.rdropWhile_prefix p cs).length_le

theorem getLast?_dropEndWhile (last : (dropEndWhile p cs).getLast? = some x)
    : p x = false := by
  rw [dropEndWhile_eq_rdropWhile] at last
  have filled : cs.rdropWhile p ≠ [] := by
    intro empty
    rw [empty] at last
    cases last
  have other := List.rdropWhile_last_not p cs filled
  rw [List.getLast?_eq_some_getLast filled] at last
  rw [Option.some.inj last] at other
  simpa using other

/-- A text that ends with a character of another class keeps its end. -/
theorem dropEndWhile_of_getLast? (ends : ∀ x, cs.getLast? = some x → p x = false)
    : dropEndWhile p cs = cs := by
  rcases cs.eq_nil_or_concat' with rfl | ⟨start, last, rfl⟩
  · rfl
  · exact dropEndWhile_concat (ends last (by simp)) start

theorem dropEndWhile_map {f : Char → Char} (same : ∀ c, p (f c) = p c) (cs : Chars)
    : dropEndWhile p (cs.map f) = (dropEndWhile p cs).map f := by
  induction cs with
  | nil => rfl
  | cons c rest ih =>
      rw [List.map_cons, dropEndWhile, dropEndWhile, ih]
      cases kept : dropEndWhile p rest with
      | nil => cases inside : p c <;> simp [same, inside]
      | cons d later => rfl

/-- It makes no difference at which end a text is cut first. -/
theorem dropWhile_dropEndWhile (p q : Char → Bool) (cs : Chars)
    : (dropEndWhile p cs).dropWhile q = dropEndWhile p (cs.dropWhile q) := by
  induction cs with
  | nil => rfl
  | cons c rest ih =>
      cases first : q c with
      | true =>
          rw [List.dropWhile_cons_of_pos first, ← ih, dropEndWhile]
          cases kept : dropEndWhile p rest with
          | nil => cases inside : p c <;> simp [first]
          | cons d later => rw [List.dropWhile_cons_of_pos first]
      | false =>
          rw [List.dropWhile_cons_of_neg (by simp [first]), dropEndWhile]
          cases kept : dropEndWhile p rest with
          | nil => cases inside : p c <;> simp [first]
          | cons d later => rw [List.dropWhile_cons_of_neg (by simp [first])]

-----------------------------------------------------------------------------------------
-- Both ends
-----------------------------------------------------------------------------------------

theorem trim_eq_nil
    : trim p cs = [] ↔ ∀ c ∈ cs, p c = true := by
  rw [trim, ← dropWhile_dropEndWhile, List.dropWhile_eq_nil_iff]
  constructor
  · intro inside c held
    obtain ⟨t, whole, class_end⟩ := exists_dropEndWhile p cs
    rw [whole] at held
    rcases List.mem_append.mp held with kept | dropped
    · exact inside c kept
    · exact class_end c dropped
  · intro inside c held
    exact inside c (mem_of_mem_dropEndWhile held)

theorem head?_trim (first : (trim p cs).head? = some x)
    : p x = false := by
  rw [trim, ← dropWhile_dropEndWhile] at first
  have other := List.head?_dropWhile_not p (dropEndWhile p cs)
  rw [first] at other
  exact other

theorem getLast?_trim (last : (trim p cs).getLast? = some x)
    : p x = false :=
  getLast?_dropEndWhile last

/-- Cutting at the start leaves the last character that is not of the class. -/
theorem getLast?_trim_of_dropEndWhile (last : (dropEndWhile p cs).getLast? = some x)
    : (trim p cs).getLast? = some x := by
  have other := getLast?_dropEndWhile last
  obtain ⟨start, whole⟩ := List.getLast?_eq_some_iff.mp last
  rw [trim, ← dropWhile_dropEndWhile, whole, List.dropWhile_append]
  split
  · rw [List.dropWhile_cons_of_neg (by simp [other])]
    rfl
  · exact List.getLast?_concat

/-- A text whose edges are not of the class stays as it is. -/
theorem trim_of_edges (first : ∀ x, cs.head? = some x → p x = false)
    (last : ∀ x, cs.getLast? = some x → p x = false)
    : trim p cs = cs := by
  have kept : cs.dropWhile p = cs := by
    cases cs with
    | nil => rfl
    | cons c rest => exact List.dropWhile_cons_of_neg (by simp [first c rfl])
  rw [trim, kept, dropEndWhile_of_getLast? last]

theorem trim_map {f : Char → Char} (same : ∀ c, p (f c) = p c) (cs : Chars)
    : trim p (cs.map f) = (trim p cs).map f := by
  have composed : p ∘ f = p := funext same
  rw [trim, trim, List.dropWhile_map, composed, dropEndWhile_map same]

end MixedScript.Chars
