import MixedScript.Files
import MixedScript.Proofs.Text.Lines

/-! Written paths. The path from the root to a place leads to that place again, from wherever it is
followed, and its last name is the one of the place. -/

namespace MixedScript

namespace Path

/-- A name that leads from a directory to something in it. -/
def IsEntry (name : String) : Prop :=
  name ≠ "" ∧ name ≠ "." ∧ name ≠ ".." ∧ '/' ∉ name.toList

instance (name : String) : Decidable (IsEntry name) :=
  inferInstanceAs (Decidable (_ ∧ _))

/-- A place that is reached from the root without ways back. -/
def Proper (p : Path) : Prop :=
  ∀ name ∈ p, IsEntry name

instance (p : Path) : Decidable (Proper p) :=
  inferInstanceAs (Decidable (∀ name ∈ p, IsEntry name))

variable {p : Path} {name : String}

theorem Proper.take (h : Proper p) (n : Nat)
    : Proper (p.take n) :=
  fun name member => h name (List.mem_of_mem_take member)

theorem Proper.concat (h : Proper p) (entry : IsEntry name)
    : Proper (p ++ [name]) := by
  intro other member
  rcases List.mem_append.mp member with inside | last
  · exact h other inside
  · obtain rfl := List.mem_singleton.mp last
    exact entry

/-- Between the slashes of the path from the root stand the names of a place. -/
theorem splitAt_shown (h : Proper p) (placed : p ≠ [])
    : Chars.splitAt '/' (shown p).toList = [] :: p.map String.toList := by
  have slash : ∀ cs ∈ p.map String.toList, '/' ∉ cs := by
    intro cs member
    obtain ⟨name, inside, rfl⟩ := List.mem_map.mp member
    exact (h name inside).2.2.2
  have written : (shown p).toList = '/' :: ['/'].intercalate (p.map String.toList) := by
    simp only [shown, String.toList_append, String.toList_intercalate]
    rfl
  rw [written, Chars.splitAt, if_pos (beq_self_eq_true '/'), Chars.splitAt_eq_splitOn,
    List.splitOn_intercalate '/' slash (by simpa using placed)]

theorem isAbsolute_shown (p : Path)
    : isAbsolute (shown p) = true := by
  simp [isAbsolute, shown]

theorem names_shown (h : Proper p)
    : names (shown p) = p := by
  by_cases placed : p = []
  · subst placed
    decide
  · have kept : (p.map String.toList).filter (fun part => !part.isEmpty && part != ['.'])
        = p.map String.toList := by
      refine List.filter_eq_self.mpr ?_
      intro cs member
      obtain ⟨name, inside, rfl⟩ := List.mem_map.mp member
      obtain ⟨notEmpty, notDot, -⟩ := h name inside
      have filled : name.toList ≠ [] := by simpa using notEmpty
      have noDot : name.toList ≠ ['.'] := fun same => notDot (String.toList_injective same)
      simp [filled, noDot]
    rw [names, splitAt_shown h placed, List.filter_cons_of_neg (by decide), kept, List.map_map]
    simp [Function.comp_def]

theorem follow_proper (h : Proper p) (start : Path)
    : follow start p = start ++ p := by
  induction p generalizing start with
  | nil => rw [follow, List.append_nil]
  | cons name rest ih =>
      have entry := h name List.mem_cons_self
      have onward : (name == "..") = false := beq_eq_false_iff_ne.mpr entry.2.2.1
      have later : Proper rest := fun other member => h other (List.mem_cons_of_mem name member)
      rw [follow, onward, if_neg Bool.false_ne_true, ih later, List.append_assoc,
        List.singleton_append]

/-- The path from the root leads to its place from everywhere. -/
theorem resolve_shown (h : Proper p) (current : Path)
    : resolve current (shown p) = p := by
  rw [resolve, if_pos (isAbsolute_shown p), names_shown h, follow_proper h, List.nil_append]

theorem plain_shown (h : Proper p)
    : plain (shown p) = shown p := by
  rw [plain, if_pos (isAbsolute_shown p), names_shown h]
  rfl

theorem name_shown (h : Proper (p ++ [name]))
    : Path.name (shown (p ++ [name])) = name := by
  rw [Path.name, names_shown h, List.getLast?_concat, Option.getD_some]

end Path

end MixedScript
