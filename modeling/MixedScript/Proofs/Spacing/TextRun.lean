import MixedScript.Proofs.Spacing.Visible

/-! Tidying a run of text touches the gaps inside it alone. What stands at its edges stays, so a run
can be tidied before or after its edges are changed, and what has been tidied once is tidy. -/

namespace MixedScript.Spacing

variable {classOf : Char → CharClass} {wants : Char → Char → Bool → Bool} {before : Option Char}
  {a c g s z : Chars}

-----------------------------------------------------------------------------------------
-- Edges
-----------------------------------------------------------------------------------------

/-- Blanks that are read next widen the gap. -/
theorem tidyFrom_blank_append (ha : isBlankRun a = true) (s : Chars)
    : tidyFrom classOf wants before g (a ++ s) = tidyFrom classOf wants before (g ++ a) s := by
  induction a generalizing g with
  | nil => simp
  | cons first a ih =>
      obtain ⟨hfirst, ha⟩ : Text.isInlineBlank first = true ∧ isBlankRun a = true := by
        simpa [isBlankRun] using ha
      simp only [List.cons_append, tidyFrom, hfirst, if_true, ih ha, List.append_assoc,
        List.nil_append]

theorem tidyFrom_blank (hz : isBlankRun z = true)
    : tidyFrom classOf wants before g z = g ++ z := by
  have read := @tidyFrom_blank_append classOf wants before z g hz []
  simpa [tidyFrom] using read

/-- What fills the gap before a character that is no blank. At the start of a line the gap stays. -/
def filling (classOf : Char → CharClass) (wants : Char → Char → Bool → Bool)
    (before : Option Char) (g : Chars) (c : Char) : Chars :=
  match before with
  | some b => if isVisible c then tidyGap classOf wants b g c else g
  | none => g

/-- The visible character that a line had last after a character that is no blank. -/
def lineAfter (c : Char) : Option Char :=
  if isVisible c then some c else none

/-- A character that is no blank ends the gap before it, and reading goes on after it. -/
theorem tidyFrom_cons {first : Char} (visible : Text.isInlineBlank first = false) (s : Chars)
    : tidyFrom classOf wants before g (first :: s)
      = filling classOf wants before g first
        ++ first :: tidyFrom classOf wants (lineAfter first) [] s := by
  cases shown : isVisible first <;> cases before <;>
    simp [tidyFrom, visible, filling, lineAfter, shown]

theorem isBlankRun_filling {first : Char} (blank : isBlankRun g = true)
    : isBlankRun (filling classOf wants before g first) = true := by
  unfold filling
  split
  · split
    · exact visible_eq_nil.mp (visible_tidyGap blank)
    · exact blank
  · exact blank

/-- A run that is read after a character that is no blank is tidied for itself, with that character
before it. -/
theorem tidyFrom_append {last : Char} (visible : Text.isInlineBlank last = false) (w s : Chars)
    : tidyFrom classOf wants before g (w ++ last :: s)
      = tidyFrom classOf wants before g (w ++ [last])
        ++ tidyFrom classOf wants (lineAfter last) [] s := by
  induction w generalizing before g with
  | nil =>
      have ended : ∀ b, tidyFrom classOf wants b [] [] = [] := fun _ => rfl
      simp only [List.nil_append, tidyFrom_cons visible, ended, List.append_assoc,
        List.cons_append]
  | cons first w ih =>
      cases blank : Text.isInlineBlank first with
      | true => simp only [List.cons_append, tidyFrom, blank, if_true, ih]
      | false => simp only [List.cons_append, tidyFrom_cons blank, ih, List.append_assoc]

/-- Blanks at the end of a run stay as they are. -/
theorem tidyFrom_append_blank {last : Char} (visible : Text.isInlineBlank last = false)
    (w : Chars) (hz : isBlankRun z = true)
    : tidyFrom classOf wants before g (w ++ last :: z)
      = tidyFrom classOf wants before g (w ++ [last]) ++ z := by
  rw [tidyFrom_append visible, tidyFrom_blank hz, List.nil_append]

/-- A run that ends visibly does so when it has been tidied. -/
theorem tidyFrom_ends {last : Char} (visible : Text.isInlineBlank last = false) (w : Chars)
    : ∃ w', tidyFrom classOf wants before g (w ++ [last]) = w' ++ [last] := by
  induction w generalizing before g with
  | nil => exact ⟨_, tidyFrom_cons visible []⟩
  | cons first w ih =>
      cases blank : Text.isInlineBlank first with
      | true =>
          simp only [List.cons_append, tidyFrom, blank, if_true]
          exact ih
      | false =>
          obtain ⟨w', ends⟩ := @ih (lineAfter first) []
          refine ⟨filling classOf wants before g first ++ first :: w', ?_⟩
          simp only [List.cons_append, tidyFrom_cons blank, ends, List.append_assoc]

/-- A core stays a core. -/
theorem Core.tidyText (core : Core c)
    : Core (tidyText classOf wants c) where
  starts := by
    obtain ⟨first, rest, rfl, visible⟩ := core.starts
    exact ⟨first, _, tidyFrom_cons visible rest, visible⟩
  ends := by
    obtain ⟨w, last, rfl, visible⟩ := core.ends
    obtain ⟨w', ends⟩ := tidyFrom_ends visible w
    exact ⟨w', last, ends, visible⟩

/-- Tidying a run tidies its core and leaves its edges. -/
theorem tidyText_parts (ha : isBlankRun a = true) (hc : Core c) (hz : isBlankRun z = true)
    : tidyText classOf wants (a ++ (c ++ z)) = a ++ (tidyText classOf wants c ++ z) := by
  obtain ⟨w, last, ends, hlast⟩ := hc.ends
  obtain ⟨first, rest, starts, hfirst⟩ := hc.starts
  have tail : ∀ g, tidyFrom classOf wants none g (c ++ z) = tidyFrom classOf wants none g c ++ z := by
    intro g
    rw [ends, List.append_assoc]
    exact tidyFrom_append_blank hlast w hz
  have head : tidyFrom classOf wants none a c = a ++ tidyText classOf wants c := by
    rw [starts, tidyText, tidyFrom_cons hfirst, tidyFrom_cons hfirst]
    rfl
  rw [tidyText, tidyFrom_blank_append ha, List.nil_append, tail, head, List.append_assoc]

theorem tidyText_blank (blank : isBlankRun s = true)
    : tidyText classOf wants s = s :=
  tidyFrom_blank blank

theorem lead_tidyText
    : lead (tidyText classOf wants s) = lead s := by
  cases blank : isBlankRun s with
  | true => rw [tidyText_blank blank]
  | false =>
      obtain ⟨a, c, z, rfl, ha, hc, hz⟩ := exists_core blank
      rw [tidyText_parts ha hc hz, lead_parts ha hc.tidyText, lead_parts ha hc]

theorem trail_tidyText
    : trail (tidyText classOf wants s) = trail s := by
  cases blank : isBlankRun s with
  | true => rw [tidyText_blank blank]
  | false =>
      obtain ⟨a, c, z, rfl, ha, hc, hz⟩ := exists_core blank
      rw [tidyText_parts ha hc hz, trail_parts a hc.tidyText hz, trail_parts a hc hz]

-----------------------------------------------------------------------------------------
-- Tidying again
-----------------------------------------------------------------------------------------

/-- A space that is wanted where there was none is wanted where there was one. -/
def Monotone (wants : Char → Char → Bool → Bool) : Prop :=
  ∀ a b, wants a b false = true → wants a b true = true

/-- A gap that has been filled is filled the same way again. -/
theorem filling_filling (mono : Monotone wants) (first : Char)
    : filling classOf wants before (filling classOf wants before g first) first
      = filling classOf wants before g first := by
  unfold filling
  cases before with
  | none => rfl
  | some b =>
      simp only
      split
      · simp only [tidyGap]
        split
        · have := mono b first
          cases hg : g.isEmpty <;> cases hf : wants b first false <;> cases ht : wants b first true <;>
            simp_all
        · rfl
      · rfl

/-- What has been tidied is tidy. -/
theorem tidyFrom_tidyFrom (mono : Monotone wants) (blank : isBlankRun g = true) (s : Chars)
    : tidyFrom classOf wants before [] (tidyFrom classOf wants before g s)
      = tidyFrom classOf wants before g s := by
  induction s generalizing before g with
  | nil => exact tidyFrom_blank blank
  | cons c rest ih =>
      cases inGap : Text.isInlineBlank c with
      | true =>
          have longer : isBlankRun (g ++ [c]) = true := by simp_all [isBlankRun]
          simp only [tidyFrom, inGap, if_true]
          exact ih longer
      | false =>
          rw [tidyFrom_cons inGap, tidyFrom_blank_append (isBlankRun_filling blank),
            List.nil_append, tidyFrom_cons inGap, filling_filling mono, ih rfl]

theorem tidyText_tidyText (mono : Monotone wants) (s : Chars)
    : tidyText classOf wants (tidyText classOf wants s) = tidyText classOf wants s :=
  tidyFrom_tidyFrom mono rfl s

theorem wantsSpace_mono {a b : CharClass} (h : wantsSpace a b false = true)
    : wantsSpace a b true = true := by
  cases a <;> cases b <;> first | rfl | exact h

end MixedScript.Spacing
