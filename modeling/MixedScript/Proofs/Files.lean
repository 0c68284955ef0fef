import MixedScript.Output
import Mathlib.Data.List.Basic

/-! Reading from a tree of files and writing into it. Once a file has been written it can be written
again, so of all that can go wrong with a text that is saved, only a character that the encoding does
not have leaves a trace: the file has been emptied by then. -/

namespace MixedScript.Files

variable {f g : Files} {p q : Path} {bs : Encoding.Bytes}

-----------------------------------------------------------------------------------------
-- Reading
-----------------------------------------------------------------------------------------

theorem isFile_iff
    : f.isFile p = true ↔ ∃ bs, f.entry? p = some (some bs) := by
  unfold isFile
  split <;> simp_all

/-- What can be read is what a file holds that is not locked. -/
theorem read_eq_ok
    : f.read p = .ok bs ↔ f.entry? p = some (some bs) ∧ p ∉ f.locked := by
  unfold read
  split
  · next held =>
      split <;> simp_all
  · next other =>
      simp only [reduceCtorEq, false_iff]
      exact fun held => other bs held.1

theorem isFile_of_read (h : f.read p = .ok bs)
    : f.isFile p = true :=
  isFile_iff.mpr ⟨bs, (read_eq_ok.mp h).1⟩

/-- A file is read as before where it holds what it held, and no place has been locked. -/
theorem read_of_same (h : f.read p = .ok bs) (same : g.entry? p = f.entry? p) (locks : g.locked = f.locked)
    : g.read p = .ok bs := by
  rw [read_eq_ok, same, locks]
  exact read_eq_ok.mp h

-----------------------------------------------------------------------------------------
-- Writing
-----------------------------------------------------------------------------------------

/-- A place that can be written to, and the tree after that. -/
theorem write_ok (h : f.write p bs = .ok g)
    : f.isDirectory p = false
      ∧ f.isDirectory p.dropLast = true
      ∧ g = { f with entries := (p, some bs) :: f.entries.filter (fun (q, _) => q != p) } := by
  unfold write at h
  split at h
  · cases h
  · next free =>
      split at h
      · next parent => exact ⟨Bool.eq_false_iff.mpr free, parent, (Except.ok.inj h).symm⟩
      · cases h

theorem lookup_filter_other {α : Type} (h : q ≠ p) (entries : List (Path × α))
    : (entries.filter (fun (q, _) => q != p)).lookup q = entries.lookup q := by
  induction entries with
  | nil => rfl
  | cons entry entries ih =>
      obtain ⟨place, content⟩ := entry
      by_cases here : place = p
      · have apart : (q == p) = false := by simp [h]
        simp [List.lookup_cons, here, apart, ih]
      · simp only [List.filter_cons, bne_iff_ne, ne_eq, here, not_false_eq_true, if_true,
          List.lookup_cons, ih]

theorem entry?_written (h : f.write p bs = .ok g)
    : g.entry? p = some (some bs) := by
  obtain ⟨-, -, rfl⟩ := write_ok h
  unfold entry?
  simp

theorem entry?_elsewhere (h : f.write p bs = .ok g) (other : q ≠ p)
    : g.entry? q = f.entry? q := by
  obtain ⟨-, -, rfl⟩ := write_ok h
  have apart : (q == p) = false := by simp [other]
  unfold entry?
  simp only [List.lookup_cons, apart, lookup_filter_other other]

theorem locked_written (h : f.write p bs = .ok g)
    : g.locked = f.locked := by
  obtain ⟨-, -, rfl⟩ := write_ok h
  rfl

/-- A place that can be written to is not the root. -/
theorem ne_nil_of_write (h : f.write p bs = .ok g)
    : p ≠ [] := by
  rintro rfl
  have := (write_ok h).1
  simp [isDirectory] at this

theorem isBelow_dropLast (h : p ≠ [])
    : isBelow p.dropLast p = true := by
  have shorter : p.length - 1 < p.length :=
    Nat.sub_lt (List.length_pos_iff.mpr h) Nat.one_pos
  simp [isBelow, shorter, List.dropLast_eq_take]

/-- What has been written can be written again. -/
theorem write_again (h : f.write p bs = .ok g) (cs : Encoding.Bytes)
    : ∃ g', g.write p cs = .ok g' := by
  have placed := ne_nil_of_write h
  have isFile : g.isDirectory p = false := by
    simp [isDirectory, entry?_written h, placed]
  have isParent : g.isDirectory p.dropLast = true := by
    obtain ⟨-, parent, shape⟩ := write_ok h
    have kept : g.entry? p.dropLast = f.entry? p.dropLast :=
      entry?_elsewhere h fun same => by
        have := congrArg List.length same
        have := List.length_pos_iff.mpr placed
        simp only [List.length_dropLast] at *
        omega
    have held : g.entries.any (fun (q, _) => isBelow p.dropLast q) = true := by
      simp [shape, isBelow_dropLast placed]
    simp only [isDirectory, kept, held, Bool.or_eq_true, Bool.and_eq_true] at parent ⊢
    tauto
  exact ⟨_, by rw [write, isFile, isParent]; rfl⟩

-----------------------------------------------------------------------------------------
-- Saving
-----------------------------------------------------------------------------------------

/-- All that can come of saving a text. -/
inductive Saves (f : Files) (codecs : Encoding.SystemCodecs) (p : Path) (encoding : String) (cs : Chars)
    : Files × Option Mishap → Prop
  /-- The file cannot be written to. -/
  | closed {m} (refused : f.write p [] = .error m) : Saves f codecs p encoding cs (f, some m)
  /-- The file has been emptied, but the text has no bytes. -/
  | emptied {g m} (opened : f.write p [] = .ok g)
      (refused : Encoding.encodeAs codecs encoding cs = .error m)
      : Saves f codecs p encoding cs (g, some m)
  | done {g bs g'} (opened : f.write p [] = .ok g)
      (encoded : Encoding.encodeAs codecs encoding cs = .ok bs)
      (written : g.write p bs = .ok g')
      : Saves f codecs p encoding cs (g', none)

theorem saves (f : Files) (codecs : Encoding.SystemCodecs) (p : Path) (encoding : String) (cs : Chars)
    : Saves f codecs p encoding cs (f.save codecs p encoding cs) := by
  cases opened : f.write p [] with
  | error m =>
      simp only [save, opened]
      exact .closed opened
  | ok g =>
      cases encoded : Encoding.encodeAs codecs encoding cs with
      | error m =>
          simp only [save, opened, encoded]
          exact .emptied opened encoded
      | ok bs =>
          obtain ⟨g', written⟩ := write_again opened bs
          simp only [save, opened, encoded, written]
          exact .done opened encoded written

/-- Saving touches no other place. -/
theorem Saves.elsewhere {codecs : Encoding.SystemCodecs} {encoding : String} {cs : Chars}
    {result : Files × Option Mishap} (h : Saves f codecs p encoding cs result) (other : q ≠ p)
    : entry? result.1 q = f.entry? q := by
  cases h with
  | closed => rfl
  | emptied opened => exact entry?_elsewhere opened other
  | done opened _ written =>
      exact (entry?_elsewhere written other).trans (entry?_elsewhere opened other)

end MixedScript.Files
