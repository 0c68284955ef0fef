import MixedScript.Proofs.Spacing.Joining

/-! The usual rules on prose without CJK characters and full-width punctuation. Between two
characters of prose the table leaves the decision to the source, so a run stays as it is written and
a boundary keeps a gap where one of its sides had one. -/

namespace MixedScript.Spacing

/-- Whether a class belongs to prose: neither CJK, nor full-width, nor blank. -/
def CharClass.isProse : CharClass → Bool
  | .cjk | .wide | .blank => false
  | _ => true

/-- Whether a run holds nothing but characters of prose, spaces and tabs. -/
def isProseRun (s : Chars) : Bool :=
  s.all (fun c => Text.isInlineBlank c || CharClass.isProse (classify c))

/-- A run is empty or starts with a character of prose. -/
def StartsProse (s : Chars) : Prop :=
  ∀ c ∈ s.head?, CharClass.isProse (classify c) = true

/-- A run is empty or ends with a character of prose. -/
def EndsProse (s : Chars) : Prop :=
  ∀ c ∈ s.getLast?, CharClass.isProse (classify c) = true

variable {l r s : Chars} {had : Bool}

-----------------------------------------------------------------------------------------
-- Decisions
-----------------------------------------------------------------------------------------

theorem wantsSpace_prose {a b : CharClass} (ha : CharClass.isProse a = true)
    (hb : CharClass.isProse b = true)
    : wantsSpace a b had = had := by
  cases a <;> cases b <;> first | rfl | contradiction

/-- Between runs of prose the source decides. -/
theorem spaceBetween_prose (hl : EndsProse l) (hr : StartsProse r)
    : spaceBetween classify l r had = had := by
  unfold spaceBetween lastChar?
  split
  · next a b ha hb => exact wantsSpace_prose (hl a ha) (hr b hb)
  · rfl

theorem startsProse_trimLeft (prose : isProseRun s = true)
    : StartsProse (trimLeft s) := by
  intro c starts
  have visible := List.head?_dropWhile_not Text.isInlineBlank s
  rw [show (s.dropWhile Text.isInlineBlank).head? = some c from starts] at visible
  have mem : c ∈ s := (List.dropWhile_suffix _).subset (List.mem_of_mem_head? starts)
  have := List.all_eq_true.mp prose c mem
  simpa [visible] using this

theorem endsProse_trimRight (prose : isProseRun s = true)
    : EndsProse (trimRight s) := by
  have reversed : isProseRun s.reverse = true := by simpa [isProseRun] using prose
  have starts := startsProse_trimLeft reversed
  intro c ends
  have same := trimRight_reverse s.reverse
  rw [List.reverse_reverse] at same
  rw [same, List.getLast?_reverse] at ends
  exact starts c ends

theorem endsProse_sentinel
    : EndsProse sentinel := by
  intro c ends
  obtain rfl : 'A' = c := by simpa [sentinel] using ends
  rfl

theorem startsProse_sentinel
    : StartsProse sentinel := by
  intro c starts
  obtain rfl : 'A' = c := by simpa [sentinel] using starts
  rfl

-----------------------------------------------------------------------------------------
-- Runs
-----------------------------------------------------------------------------------------

/-- A gap between two characters of prose stays as written. -/
theorem tidyGap_prose {wants : Char → Char → Bool → Bool} {a b : Char} (g : Chars)
    (ha : CharClass.isProse (classify a) = true) (hb : CharClass.isProse (classify b) = true)
    : tidyGap classify wants a g b = g := by
  have apart : ∀ c : CharClass, CharClass.isProse c = true → CharClass.isSpaced c = false := by
    intro c prose
    cases c <;> first | rfl | contradiction
  simp [tidyGap, apart _ ha, apart _ hb]

theorem tidyFrom_prose {wants : Char → Char → Bool → Bool} (before : Option Char) (g s : Chars)
    (hb : ∀ c ∈ before, CharClass.isProse (classify c) = true) (prose : isProseRun s = true)
    : tidyFrom classify wants before g s = g ++ s := by
  induction s generalizing before g with
  | nil => simp [tidyFrom]
  | cons c rest ih =>
      obtain ⟨hc, hrest⟩ : (Text.isInlineBlank c = true ∨ CharClass.isProse (classify c) = true)
          ∧ isProseRun rest = true := by
        simpa [isProseRun] using prose
      by_cases blank : Text.isInlineBlank c = true
      · simp [tidyFrom, blank, ih before _ hb hrest]
      · have visible := hc.resolve_left blank
        have onLine := ih (some c) [] (by simpa using visible) hrest
        have onNext := ih none [] (by simp) hrest
        cases before with
        | none => simp [tidyFrom, blank, onLine, onNext]
        | some b => simp [tidyFrom, blank, onLine, onNext, tidyGap_prose g (hb b rfl) visible]

/-- A run of prose is tidy as it is written. -/
theorem tidyText_prose {wants : Char → Char → Bool → Bool} (prose : isProseRun s = true)
    : tidyText classify wants s = s :=
  tidyFrom_prose none [] s (by simp) prose

-----------------------------------------------------------------------------------------
-- Boundaries
-----------------------------------------------------------------------------------------

theorem endsProse_anchor (prose : isProseRun s = true)
    : EndsProse (anchor (trimRight s)) := by
  unfold anchor
  split
  · exact endsProse_sentinel
  · exact endsProse_trimRight prose

theorem startsProse_anchor (prose : isProseRun s = true)
    : StartsProse (anchor (trimLeft s)) := by
  unfold anchor
  split
  · exact startsProse_sentinel
  · exact startsProse_trimLeft prose

/-- Before a token a run of prose keeps one space if it ended in any. -/
theorem spaceBeforeToken_prose (prose : isProseRun s = true)
    : spaceBeforeToken .standard s = .ok (trimRight s ++ gap (endsBlank s)) := by
  rw [spaceBeforeToken_standard, beforeToken,
    spaceBetween_prose (endsProse_anchor prose) startsProse_sentinel]

/-- After a token a run of prose keeps one space if it started with any. -/
theorem spaceAfterToken_prose (prose : isProseRun s = true)
    : spaceAfterToken .standard s = .ok (gap (startsBlank s) ++ trimLeft s) := by
  rw [spaceAfterToken_standard, afterToken,
    spaceBetween_prose endsProse_sentinel (startsProse_anchor prose)]

/-- The boundary of two runs of prose, where a space is wanted exactly if one was written. -/
def joinProse (l r : Chars) (owed : Bool) : Boundary Bool :=
  joinRuns (fun _ _ had => had) false l r owed

theorem join_prose (hl : isProseRun l = true) (hr : isProseRun r = true) (owed : Bool)
    : expectBoundary (Rules.standard.join l r owed) = .ok (joinProse l r owed) := by
  have decided : ∀ had, spaceBetween classify (trimRight l) (trimLeft r) had = had :=
    fun had => spaceBetween_prose (endsProse_trimRight hl) (startsProse_trimLeft hr)
  rw [join_standard]
  simp only [joinProse, joinRuns, decided]

section Join

variable {owed : Bool}

theorem joinProse_visible (hl : isBlankRun l = false) (hr : isBlankRun r = false)
    : joinProse l r owed = ⟨trimRight l, trimLeft r, endsBlank l || startsBlank r, false⟩ :=
  joinRuns_visible hl hr

theorem joinProse_before_blank (hl : isBlankRun l = false) (hr : isBlankRun r = true)
    : joinProse l r owed = ⟨trimRight l, [], false, endsBlank l || startsBlank r⟩ :=
  joinRuns_before_blank hl hr

theorem joinProse_after_blank (hl : isBlankRun l = true) (hr : isBlankRun r = false)
    : joinProse l r owed =
        ⟨gap (endsBlank l || startsBlank r || owed), trimLeft r, false, false⟩ :=
  joinRuns_after_blank hl hr

theorem joinProse_blank (hl : isBlankRun l = true) (hr : isBlankRun r = true)
    : joinProse l r owed = ⟨[], [], false, endsBlank l || startsBlank r || owed⟩ :=
  joinRuns_blank hl hr

end Join

/-- Between visible runs of prose the left run is kept, whatever it repeats. -/
theorem keepsLeft_prose {carry : Carry} {left : Node} {b : Boundary Bool}
    (seen : EndsProse carry.seen)
    (hr : StartsProse b.right)
    : keepsLeft .standard carry left b = .ok true := by
  unfold keepsLeft
  split
  · exact congrArg Except.ok (spaceBetween_prose seen hr)
  · rfl

end MixedScript.Spacing
