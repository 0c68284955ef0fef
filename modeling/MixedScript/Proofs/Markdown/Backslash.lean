import MixedScript.Proofs.Markdown.Escape
import Mathlib.Data.List.Chain

/-! Backslashes that stand for themselves. What is written without escaping its backslashes is read back only
where none of them escapes anything. -/

namespace MixedScript.Markdown

variable {c : Char} {s : Chars} {spared : List Char}

/-- A text with no backslash before punctuation, what is spared aside, and none at its end. -/
structure BackslashesIdle (spared : List Char) (s : Chars) : Prop where
  inside : s.IsChain (fun a b => a = '\\' → isAsciiPunctuation b = false ∨ b ∈ spared)
  last : s.getLast? ≠ some '\\'

instance : Decidable (BackslashesIdle spared s) :=
  decidable_of_iff
    (s.IsChain (fun a b => a = '\\' → isAsciiPunctuation b = false ∨ b ∈ spared)
      ∧ s.getLast? ≠ some '\\')
    ⟨fun h => ⟨h.1, h.2⟩, fun h => ⟨h.inside, h.last⟩⟩

theorem backslashesIdle_nil
    : BackslashesIdle spared [] :=
  ⟨.nil, by simp⟩

theorem backslashesIdle_cons (other : c ≠ '\\')
    : BackslashesIdle spared (c :: s) ↔ BackslashesIdle spared s := by
  cases s with
  | nil => exact ⟨fun _ => backslashesIdle_nil, fun _ => ⟨.singleton c, by simpa using other⟩⟩
  | cons d s =>
      constructor
      · rintro ⟨inside, last⟩
        exact ⟨inside.tail, by simpa using last⟩
      · rintro ⟨inside, last⟩
        exact ⟨.cons_cons (fun same => absurd same other) inside, by simpa using last⟩

theorem not_backslashesIdle_backslash
    : ¬ BackslashesIdle spared ['\\'] :=
  fun idle => idle.last rfl

theorem backslashesIdle_backslash_cons
    : BackslashesIdle spared ('\\' :: c :: s)
      ↔ (isAsciiPunctuation c = false ∨ c ∈ spared) ∧ BackslashesIdle spared (c :: s) := by
  constructor
  · rintro ⟨inside, last⟩
    rw [List.isChain_cons_cons] at inside
    exact ⟨inside.1 rfl, inside.2, by simpa using last⟩
  · rintro ⟨here, inside, last⟩
    exact ⟨.cons_cons (fun _ => here) inside, by simpa using last⟩

theorem ne_of_not_punctuation (plain : isAsciiPunctuation c = false) (x : Char)
    (punctuation : isAsciiPunctuation x = true)
    : c ≠ x := by
  rintro rfl
  rw [plain] at punctuation
  cases punctuation

theorem unescapeFrom_false_cons (other : c ≠ '\\') (s : Chars)
    : unescapeFrom false (c :: s) = c :: unescapeFrom false s :=
  unescape_cons other s

theorem unescapeFrom_punctuation (punctuation : isAsciiPunctuation c = true) (s : Chars)
    : unescapeFrom true (c :: s) = c :: unescapeFrom false s := by
  simp [unescapeFrom, punctuation]

theorem unescapeFrom_plain (plain : isAsciiPunctuation c = false) (s : Chars)
    : unescapeFrom true (c :: s) = '\\' :: c :: unescapeFrom false s := by
  simp [unescapeFrom, plain]

theorem length_unescapeFrom_cons {n : Nat} (pending : (unescapeFrom true s).length ≤ n + 1)
    (free : (unescapeFrom false s).length ≤ n) (escaped : Bool) (c : Char)
    : (unescapeFrom escaped (c :: s)).length ≤ n + 1 + escaped.toNat := by
  cases escaped with
  | false =>
      by_cases backslash : c = '\\'
      · simpa [unescapeFrom, backslash] using pending
      · simpa [unescapeFrom_false_cons backslash] using free
  | true =>
      cases punctuation : isAsciiPunctuation c with
      | true =>
          rw [unescapeFrom_punctuation punctuation, List.length_cons, Bool.toNat_true]
          omega
      | false =>
          rw [unescapeFrom_plain punctuation, List.length_cons, List.length_cons, Bool.toNat_true]
          omega

theorem length_unescapeFrom (escaped : Bool) (s : Chars)
    : (unescapeFrom escaped s).length ≤ s.length + escaped.toNat := by
  induction s generalizing escaped with
  | nil => cases escaped <;> simp [unescapeFrom]
  | cons c s ih => exact length_unescapeFrom_cons (ih true) (ih false) escaped c

/-- A text with the backslash that may have been read before it. -/
def behind (escaped : Bool) (s : Chars) : Chars :=
  if escaped then '\\' :: s else s

theorem behind_true (s : Chars)
    : behind true s = '\\' :: s := rfl

theorem behind_false (s : Chars)
    : behind false s = s := rfl

/-- A backslash that takes punctuation literally is lost. -/
theorem unescapeFrom_true_cons_iff
    : unescapeFrom true (c :: s) = '\\' :: c :: s
      ↔ isAsciiPunctuation c = false ∧ unescapeFrom false s = s := by
  cases punctuation : isAsciiPunctuation c with
  | false => simp [unescapeFrom_plain punctuation]
  | true =>
      simp only [unescapeFrom_punctuation punctuation, Bool.true_eq_false, false_and, iff_false]
      intro same
      obtain ⟨rfl, rest⟩ := List.cons.inj same
      have shorter := length_unescapeFrom false s
      rw [rest] at shorter
      exact absurd shorter (by simp)

theorem unescapeFrom_false_cons_iff (other : c ≠ '\\')
    : unescapeFrom false (c :: s) = c :: s ↔ unescapeFrom false s = s := by
  rw [unescapeFrom_false_cons other, List.cons_inj_right]

/-- A reader that goes on behind a character reads a text that starts with it just where it reads the rest. -/
theorem map_cons_eq_some {read : Option (Chars × Chars)} {later : Chars}
    : read.map (fun (t, r) => (c :: t, r)) = some (c :: s, later) ↔ read = some (s, later) := by
  cases read <;> simp [Prod.ext_iff]

end MixedScript.Markdown
