import MixedScript.Proofs.Text.Chars
import MixedScript.Spacing.Boundary

/-! Trimming at the edges of a run. A run that holds something visible is a core between two runs of
spaces and tabs, and what is trimmed is read off from there. -/

namespace MixedScript.Spacing

/-- Whether a run holds nothing but spaces and tabs. -/
def isBlankRun (s : Chars) : Bool :=
  s.all Text.isInlineBlank

/-- Whether a run starts with a space or a tab. -/
def startsBlank (s : Chars) : Bool :=
  trimLeft s != s

/-- Whether a run ends with a space or a tab. -/
def endsBlank (s : Chars) : Bool :=
  trimRight s != s

/-- A single space, or nothing. -/
def gap (wide : Bool) : Chars :=
  if wide then [' '] else []

/-- The spaces and tabs that a run starts with. -/
def lead (s : Chars) : Chars :=
  s.takeWhile Text.isInlineBlank

/-- The spaces and tabs that a run ends with. -/
def trail (s : Chars) : Chars :=
  Chars.takeEndWhile Text.isInlineBlank s

/-- Visible characters at both ends. -/
structure Core (c : Chars) : Prop where
  starts : ∃ first rest, c = first :: rest ∧ Text.isInlineBlank first = false
  ends : ∃ before last, c = before ++ [last] ∧ Text.isInlineBlank last = false

theorem Core.ne_nil {c : Chars} (core : Core c)
    : c ≠ [] := by
  obtain ⟨_, _, rfl, _⟩ := core.starts
  exact List.cons_ne_nil _ _

theorem isBlankRun_iff {s : Chars}
    : isBlankRun s = true ↔ ∀ c ∈ s, Text.isInlineBlank c = true :=
  List.all_eq_true

theorem isBlank_of_isInlineBlank {c : Char} (h : Text.isInlineBlank c = true)
    : Text.isBlank c = true := by
  rcases Bool.or_eq_true_iff.mp h with h | h
  · rw [beq_iff_eq.mp h]; rfl
  · rw [beq_iff_eq.mp h]; rfl

/-- What is trimmed from the end is trimmed from the start of the reverse. -/
theorem trimRight_reverse (s : Chars)
    : trimRight s.reverse = (trimLeft s).reverse := by
  rw [trimRight, Chars.dropEndWhile_eq_rdropWhile, List.rdropWhile_reverse]
  rfl

theorem trimLeft_blank_append {a : Chars} (blank : isBlankRun a = true) (w : Chars)
    : trimLeft (a ++ w) = trimLeft w :=
  List.dropWhile_append_of_pos (isBlankRun_iff.mp blank)

theorem trimLeft_core_append {c : Chars} (core : Core c) (w : Chars)
    : trimLeft (c ++ w) = c ++ w := by
  obtain ⟨first, rest, rfl, visible⟩ := core.starts
  exact List.dropWhile_cons_of_neg (by simp [visible])

theorem trimRight_append_blank (w : Chars) {z : Chars} (blank : isBlankRun z = true)
    : trimRight (w ++ z) = trimRight w := by
  have reversed : isBlankRun z.reverse = true := by simpa [isBlankRun] using blank
  have trimmed := trimRight_reverse (z.reverse ++ w.reverse)
  rw [trimLeft_blank_append reversed, ← trimRight_reverse] at trimmed
  simpa using trimmed

theorem trimRight_append_core (w : Chars) {c : Chars} (core : Core c)
    : trimRight (w ++ c) = w ++ c := by
  obtain ⟨before, last, rfl, visible⟩ := core.ends
  rw [trimRight, Chars.dropEndWhile_eq_rdropWhile, ← List.append_assoc]
  exact List.rdropWhile_concat_neg _ _ _ (by simp [visible])

theorem trimRight_core {c : Chars} (core : Core c)
    : trimRight c = c :=
  trimRight_append_core [] core

theorem trimLeft_eq_nil {s : Chars}
    : trimLeft s = [] ↔ isBlankRun s = true := by
  rw [trimLeft, List.dropWhile_eq_nil_iff, isBlankRun_iff]

theorem trimRight_eq_nil {s : Chars}
    : trimRight s = [] ↔ isBlankRun s = true := by
  rw [trimRight, Chars.dropEndWhile_eq_rdropWhile, List.rdropWhile_eq_nil_iff, isBlankRun_iff]

theorem isBlankRun_of_getLast? {s : Chars} {x : Char} (ends : (trimRight s).getLast? = some x)
    : isBlankRun s = false := by
  cases blank : isBlankRun s with
  | false => rfl
  | true =>
      rw [trimRight_eq_nil.mpr blank] at ends
      cases ends

theorem isBlankRun_of_head? {s : Chars} {y : Char} (starts : (trimLeft s).head? = some y)
    : isBlankRun s = false := by
  cases blank : isBlankRun s with
  | false => rfl
  | true =>
      rw [trimLeft_eq_nil.mpr blank] at starts
      cases starts

/-- A run that is not blank is a core between two blank runs. -/
theorem exists_core {s : Chars} (visible : isBlankRun s = false)
    : ∃ a c z, s = a ++ (c ++ z) ∧ isBlankRun a = true ∧ Core c ∧ isBlankRun z = true := by
  have started : trimLeft s ≠ [] := by simp [trimLeft_eq_nil, visible]
  obtain ⟨first, rest, starts⟩ := List.exists_cons_of_ne_nil started
  have hfirst : Text.isInlineBlank first = false := by
    have := List.head?_dropWhile_not Text.isInlineBlank s
    rw [show s.dropWhile Text.isInlineBlank = first :: rest from starts] at this
    exact this
  have ended : (first :: rest).rdropWhile Text.isInlineBlank ≠ [] := by
    intro h
    have := List.rdropWhile_eq_nil_iff.mp h first (by simp)
    simp [hfirst] at this
  have split := @List.rdropWhile_append_rtakeWhile _ Text.isInlineBlank (first :: rest)
  refine ⟨s.takeWhile Text.isInlineBlank, (first :: rest).rdropWhile Text.isInlineBlank,
    (first :: rest).rtakeWhile Text.isInlineBlank, ?_, ?_, ⟨?_, ?_⟩, ?_⟩
  · rw [split, ← starts]
    exact List.takeWhile_append_dropWhile.symm
  · exact isBlankRun_iff.mpr (fun c mem => List.mem_takeWhile_imp mem)
  · obtain ⟨head, tail, shape⟩ := List.exists_cons_of_ne_nil ended
    rw [shape, List.cons_append] at split
    exact ⟨head, tail, shape, by rwa [(List.cons.inj split).1]⟩
  · exact ⟨_, _, (List.dropLast_append_getLast ended).symm,
      by simpa using List.rdropWhile_last_not _ _ ended⟩
  · exact isBlankRun_iff.mpr (fun c mem => List.mem_rtakeWhile_imp mem)

-----------------------------------------------------------------------------------------
-- A core between two blank runs
-----------------------------------------------------------------------------------------

theorem trimLeft_parts {a c : Chars} (ha : isBlankRun a = true) (hc : Core c) (z : Chars)
    : trimLeft (a ++ (c ++ z)) = c ++ z := by
  rw [trimLeft_blank_append ha, trimLeft_core_append hc]

theorem trimRight_parts (a : Chars) {c z : Chars} (hc : Core c) (hz : isBlankRun z = true)
    : trimRight (a ++ (c ++ z)) = a ++ c := by
  rw [← List.append_assoc, trimRight_append_blank _ hz, trimRight_append_core _ hc]

theorem isBlankRun_parts (a : Chars) {c : Chars} (hc : Core c) (z : Chars)
    : isBlankRun (a ++ (c ++ z)) = false := by
  obtain ⟨first, rest, rfl, visible⟩ := hc.starts
  simp [isBlankRun, visible]

theorem startsBlank_parts {a c : Chars} (ha : isBlankRun a = true) (hc : Core c) (z : Chars)
    : startsBlank (a ++ (c ++ z)) = !a.isEmpty := by
  rw [startsBlank, trimLeft_parts ha hc, Bool.eq_iff_iff]
  simp [bne_iff_ne]

theorem endsBlank_parts (a : Chars) {c z : Chars} (hc : Core c) (hz : isBlankRun z = true)
    : endsBlank (a ++ (c ++ z)) = !z.isEmpty := by
  rw [endsBlank, trimRight_parts a hc hz, Bool.eq_iff_iff]
  simp [bne_iff_ne]

theorem visiblePart_parts {a c z : Chars} (ha : isBlankRun a = true) (hc : Core c)
    (hz : isBlankRun z = true)
    : Chars.trim Text.isInlineBlank (a ++ (c ++ z)) = c := by
  have trimmed := trimLeft_parts ha hc z
  have ended := trimRight_append_blank c hz
  rw [trimRight_core hc] at ended
  rw [Chars.trim, ← trimLeft, trimmed]
  exact ended

theorem lead_parts {a c : Chars} (ha : isBlankRun a = true) (hc : Core c) (z : Chars)
    : lead (a ++ (c ++ z)) = a := by
  have split := @List.takeWhile_append_dropWhile _ Text.isInlineBlank (a ++ (c ++ z))
  have left : (a ++ (c ++ z)).dropWhile Text.isInlineBlank = c ++ z := trimLeft_parts ha hc z
  rw [left] at split
  exact List.append_cancel_right split

theorem trail_parts (a : Chars) {c z : Chars} (hc : Core c) (hz : isBlankRun z = true)
    : trail (a ++ (c ++ z)) = z := by
  rw [trail, Chars.takeEndWhile, ← trimRight, trimRight_parts a hc hz, ← List.append_assoc]
  exact List.drop_left

/-- A blank run starts with a blank, and ends with one, unless it is empty. -/
theorem startsBlank_of_blank {s : Chars} (blank : isBlankRun s = true)
    : startsBlank s = !s.isEmpty := by
  rw [startsBlank, trimLeft_eq_nil.mpr blank]
  cases s <;> rfl

theorem endsBlank_of_blank {s : Chars} (blank : isBlankRun s = true)
    : endsBlank s = !s.isEmpty := by
  rw [endsBlank, trimRight_eq_nil.mpr blank]
  cases s <;> rfl

theorem isBlankRun_gap (wide : Bool)
    : isBlankRun (gap wide) = true := by
  cases wide <;> rfl

theorem isEmpty_gap (wide : Bool)
    : (gap wide).isEmpty = !wide := by
  cases wide <;> rfl

theorem isEmpty_append (s t : Chars)
    : (s ++ t).isEmpty = (s.isEmpty && t.isEmpty) := by
  cases s <;> rfl

-----------------------------------------------------------------------------------------
-- Edges after trimming
-----------------------------------------------------------------------------------------

section Edges

variable {s : Chars}

theorem endsBlank_eq_trail (visible : isBlankRun s = false)
    : endsBlank s = !(trail s).isEmpty := by
  obtain ⟨a, c, z, rfl, ha, hc, hz⟩ := exists_core visible
  rw [endsBlank_parts a hc hz, trail_parts a hc hz]

theorem startsBlank_eq_lead (visible : isBlankRun s = false)
    : startsBlank s = !(lead s).isEmpty := by
  obtain ⟨a, c, z, rfl, ha, hc, hz⟩ := exists_core visible
  rw [startsBlank_parts ha hc, lead_parts ha hc]

theorem endsBlank_of_trail (visible : isBlankRun s = false) (ended : trail s = [])
    : endsBlank s = false := by
  rw [endsBlank_eq_trail visible, ended]
  rfl

theorem startsBlank_of_lead (visible : isBlankRun s = false) (started : lead s = [])
    : startsBlank s = false := by
  rw [startsBlank_eq_lead visible, started]
  rfl

theorem trimRight_of_trail (visible : isBlankRun s = false) (ended : trail s = [])
    : trimRight s = s := by
  simpa [endsBlank] using endsBlank_of_trail visible ended

theorem trimLeft_of_lead (visible : isBlankRun s = false) (started : lead s = [])
    : trimLeft s = s := by
  simpa [startsBlank] using startsBlank_of_lead visible started

/-- A run that is trimmed at its end and then followed by blanks ends in them and starts as before. -/
theorem edges_trimRight_append (visible : isBlankRun s = false) {g : Chars}
    (blank : isBlankRun g = true)
    : trail (trimRight s ++ g) = g ∧ lead (trimRight s ++ g) = lead s := by
  obtain ⟨a, c, z, rfl, ha, hc, hz⟩ := exists_core visible
  rw [trimRight_parts a hc hz, List.append_assoc, trail_parts a hc blank, lead_parts ha hc,
    lead_parts ha hc]
  exact ⟨rfl, rfl⟩

/-- A run that is trimmed at its start and then follows blanks starts in them and ends as before. -/
theorem edges_append_trimLeft (visible : isBlankRun s = false) {g : Chars}
    (blank : isBlankRun g = true)
    : lead (g ++ trimLeft s) = g ∧ trail (g ++ trimLeft s) = trail s := by
  obtain ⟨a, c, z, rfl, ha, hc, hz⟩ := exists_core visible
  rw [trimLeft_parts ha hc, lead_parts blank hc, trail_parts g hc hz, trail_parts a hc hz]
  exact ⟨rfl, rfl⟩

theorem edges_trimRight (visible : isBlankRun s = false)
    : trail (trimRight s) = [] ∧ lead (trimRight s) = lead s := by
  have edges := @edges_trimRight_append s visible [] rfl
  rwa [List.append_nil] at edges

theorem edges_trimLeft (visible : isBlankRun s = false)
    : lead (trimLeft s) = [] ∧ trail (trimLeft s) = trail s :=
  @edges_append_trimLeft s visible [] rfl

end Edges

end MixedScript.Spacing
