import MixedScript.Text.Chars

/-! Texts cut at every occurrence of one character, and put together again. -/

namespace MixedScript.Chars

variable {separator : Char} {cs part : Chars} {parts : List Chars}

theorem splitAt_eq_splitOn (separator : Char) (cs : Chars)
    : splitAt separator cs = cs.splitOn separator := by
  induction cs with
  | nil => rfl
  | cons c rest ih =>
      rw [splitAt, ih, List.splitOn, List.splitOn, List.splitOnP_cons_eq_if_modifyHead]
      cases split : rest.splitOnP (· == separator) with
      | nil => exact absurd split (List.splitOnP_ne_nil _ _)
      | cons part parts => rfl

theorem join_eq_intercalate (separator : Chars) (parts : List Chars)
    : join separator parts = separator.intercalate parts := by
  fun_induction join separator parts with
  | case1 => rfl
  | case2 cs => exact (List.append_nil cs).symm
  | case3 cs rest more ih =>
      cases rest with
      | nil => exact absurd rfl more
      | cons next rest => rw [ih, List.intercalate_cons_cons]

theorem not_mem_of_mem_splitAt (held : part ∈ splitAt separator cs)
    : separator ∉ part := by
  induction cs generalizing part with
  | nil => simp_all [splitAt]
  | cons c rest ih =>
      unfold splitAt at held
      split at held
      · rcases List.mem_cons.mp held with rfl | later
        · exact List.not_mem_nil
        · exact ih later
      · next other =>
          have apart : separator ≠ c := fun same => other (by simp [same])
          split at held
          · simpa [List.mem_singleton.mp held] using apart
          · next first later split =>
              rcases List.mem_cons.mp held with rfl | behind
              · have inside := ih (split ▸ List.mem_cons_self)
                simp [apart, inside]
              · exact ih (split ▸ List.mem_cons_of_mem _ behind)

theorem lines_ne_nil (cs : Chars)
    : lines cs ≠ [] := by
  rw [lines, splitAt_eq_splitOn]
  exact List.splitOnP_ne_nil _ _

theorem join_lines (cs : Chars)
    : join ['\n'] (lines cs) = cs := by
  rw [lines, join_eq_intercalate, splitAt_eq_splitOn, List.intercalate_splitOn]

/-- Lines are found again in the text that they make. -/
theorem lines_join (free : ∀ line ∈ parts, '\n' ∉ line) (some_line : parts ≠ [])
    : lines (join ['\n'] parts) = parts := by
  rw [lines, join_eq_intercalate, splitAt_eq_splitOn, List.splitOn_intercalate '\n' free some_line]

theorem lines_of_single (single : '\n' ∉ cs)
    : lines cs = [cs] := by
  have free : ∀ line ∈ [cs], '\n' ∉ line := List.forall_mem_singleton.mpr single
  exact lines_join free (List.cons_ne_nil _ _)

/-- What stands before a text stands before its first part. -/
theorem append_join (separator cs first : Chars) (rest : List Chars)
    : cs ++ join separator (first :: rest) = join separator ((cs ++ first) :: rest) := by
  cases rest <;> simp [join]

/-- Each part but the last has a separator behind it. -/
theorem join_concat (between : Chars) (parts : List Chars) (last : Chars)
    : join between (parts ++ [last]) = parts.flatMap (· ++ between) ++ last := by
  induction parts with
  | nil => rfl
  | cons part parts ih =>
      have more : parts ++ [last] ≠ [] := by simp
      rw [List.cons_append, join.eq_3 between part _ more, ih, List.flatMap_cons, List.append_assoc,
        List.append_assoc, List.append_assoc]

theorem infix_join (held : part ∈ parts) (between : Chars)
    : part <:+: join between parts := by
  fun_induction join between parts with
  | case1 => cases held
  | case2 cs => exact List.mem_singleton.mp held ▸ List.infix_refl cs
  | case3 cs rest _ ih =>
      rcases List.mem_cons.mp held with rfl | later
      · exact ((List.prefix_append part between).trans (List.prefix_append _ _)).isInfix
      · exact (ih later).trans (List.suffix_append _ _).isInfix

/-- What is joined in two halves has a separator between them. -/
theorem join_append {more : List Chars} (before : parts ≠ []) (behind : more ≠ [])
    (separator : Chars)
    : join separator (parts ++ more) = join separator parts ++ separator ++ join separator more := by
  fun_induction join separator parts with
  | case1 => contradiction
  | case2 cs =>
      obtain ⟨next, rest, rfl⟩ := List.exists_cons_of_ne_nil behind
      rfl
  | case3 cs rest last ih =>
      have filled : rest ≠ [] := fun none => last none
      have longer : rest ++ more ≠ [] := List.append_ne_nil_of_left_ne_nil filled more
      rw [List.cons_append, join.eq_3 separator cs _ longer, ih filled]
      simp only [List.append_assoc]

/-- Parts that are not empty make a text that is not empty. -/
theorem join_eq_nil (filled : ∀ part ∈ parts, part ≠ []) (separator : Chars)
    : join separator parts = [] ↔ parts = [] := by
  constructor
  · intro empty
    cases parts with
    | nil => rfl
    | cons part parts =>
        have first : part ∈ part :: parts := List.mem_cons_self
        have inside := infix_join first separator
        rw [empty] at inside
        exact absurd (List.eq_nil_of_infix_nil inside) (filled part first)
  · intro none
    rw [none]
    rfl

/-- Parts that come first may be joined before the others. -/
theorem join_group {separator : Chars} {group more : List Chars} (filled : group ≠ [])
    (same : join separator parts = join separator more) (alike : parts = [] ↔ more = [])
    : join separator (join separator group :: parts) = join separator (group ++ more) := by
  by_cases last : parts = []
  · rw [last, alike.mp last, List.append_nil]
    rfl
  · rw [join_append filled (mt alike.mpr last), ← same]
    exact join_append (List.cons_ne_nil _ []) last separator

theorem mem_join {separator : Chars} {c : Char} (held : c ∈ join separator parts)
    : c ∈ separator ∨ ∃ part ∈ parts, c ∈ part := by
  fun_induction join separator parts with
  | case1 => cases held
  | case2 cs => exact .inr ⟨cs, List.mem_singleton_self cs, held⟩
  | case3 cs rest _ ih =>
      rw [List.append_assoc] at held
      rcases List.mem_append.mp held with here | held
      · exact .inr ⟨cs, List.mem_cons_self, here⟩
      · rcases List.mem_append.mp held with between | later
        · exact .inl between
        · exact (ih later).imp_right fun ⟨part, inside, held⟩ =>
            ⟨part, List.mem_cons_of_mem cs inside, held⟩

theorem infix_of_mem_lines (held : part ∈ lines cs)
    : part <:+: cs := by
  have inside := infix_join held ['\n']
  rwa [join_lines] at inside

end MixedScript.Chars
