import MixedScript.Proofs.Spacing.Joining
import MixedScript.Proofs.Spacing.TextRun

/-! A run of text that is cut in two. Tidying the pieces and joining them again leaves what tidying
the whole run leaves, as long as the cut is next to CJK text or full-width punctuation. -/

namespace MixedScript.Spacing

variable {classOf : Char → CharClass} {wants : Char → Char → Bool → Bool} {a l r v w z : Chars}
  {x y : Char}

-----------------------------------------------------------------------------------------
-- The characters next to a cut
-----------------------------------------------------------------------------------------

theorem core_singleton (visible : Text.isInlineBlank x = false)
    : Core [x] :=
  ⟨⟨x, [], rfl, visible⟩, ⟨[], x, rfl, visible⟩⟩

/-- A run ends in its last visible character and the blanks after it. -/
theorem exists_end (ends : (trimRight l).getLast? = some x)
    : ∃ w z, l = w ++ x :: z ∧ Text.isInlineBlank x = false ∧ isBlankRun z = true := by
  obtain ⟨a, c, z, rfl, ha, hc, hz⟩ := exists_core (isBlankRun_of_getLast? ends)
  obtain ⟨before, last, rfl, hlast⟩ := hc.ends
  rw [trimRight_parts a hc hz, ← List.append_assoc, List.getLast?_concat, Option.some.injEq] at ends
  subst ends
  exact ⟨a ++ before, z, by simp, hlast, hz⟩

/-- A run starts with blanks and its first visible character. -/
theorem exists_start (starts : (trimLeft r).head? = some y)
    : ∃ a v, r = a ++ y :: v ∧ Text.isInlineBlank y = false ∧ isBlankRun a = true := by
  obtain ⟨a, c, z, rfl, ha, hc, hz⟩ := exists_core (isBlankRun_of_head? starts)
  obtain ⟨first, rest, rfl, hfirst⟩ := hc.starts
  rw [trimLeft_parts ha hc, List.cons_append, List.head?_cons, Option.some.injEq] at starts
  subst starts
  exact ⟨a, rest ++ z, rfl, hfirst, ha⟩

/-- A character that is no blank and ends no line is visible. -/
theorem isVisible_of_not_blank (visible : Text.isInlineBlank x = false) (noReturn : x ≠ '\r')
    (noFeed : x ≠ '\n')
    : isVisible x = true := by
  simp_all [isVisible, Text.isInlineBlank]

-----------------------------------------------------------------------------------------
-- The pieces
-----------------------------------------------------------------------------------------

/-- What stands on either side of a cut is tidied as if there were no cut, and so is the gap that
the cut goes through. -/
theorem tidyText_cut (vx : isVisible x = true) (vy : isVisible y = true)
    (hx : Text.isInlineBlank x = false) (hy : Text.isInlineBlank y = false)
    (hz : isBlankRun z = true) (ha : isBlankRun a = true)
    : ∃ u tail,
        tidyText classOf wants (w ++ x :: z) = u ++ ([x] ++ z)
        ∧ tidyText classOf wants (a ++ y :: v) = a ++ ([y] ++ tail)
        ∧ tidyText classOf wants ((w ++ x :: z) ++ (a ++ y :: v))
          = (u ++ [x]) ++ (tidyGap classOf wants x (z ++ a) y ++ y :: tail) := by
  obtain ⟨u, ended⟩ := @tidyFrom_ends classOf wants none [] x hx w
  have after : lineAfter x = some x := if_pos vx
  have filled : filling classOf wants (some x) (z ++ a) y = tidyGap classOf wants x (z ++ a) y :=
    if_pos vy
  refine ⟨u, tidyFrom classOf wants (lineAfter y) [] v, ?_, ?_, ?_⟩
  · rw [tidyText, tidyFrom_append_blank hx w hz, ended, List.append_assoc]
  · rw [tidyText, tidyFrom_blank_append ha, tidyFrom_cons hy, List.nil_append]
    rfl
  · rw [tidyText, List.append_assoc, List.cons_append, tidyFrom_append hx, ended, after,
      tidyFrom_blank_append hz, tidyFrom_blank_append ha, List.nil_append, tidyFrom_cons hy, filled]

/-- The pieces are trimmed at the cut, and the table decides. -/
theorem joinRuns_cut {Space : Type} {asks : Chars → Chars → Bool → Space} {no : Space} {owed : Bool}
    (hx : Text.isInlineBlank x = false) (hy : Text.isInlineBlank y = false)
    (hz : isBlankRun z = true) (ha : isBlankRun a = true)
    : joinRuns asks no (w ++ ([x] ++ z)) (a ++ ([y] ++ v)) owed
      = ⟨w ++ [x], y :: v, asks (w ++ [x]) (y :: v) (!(z ++ a).isEmpty), false⟩ := by
  have coreX := core_singleton hx
  have coreY := core_singleton hy
  rw [joinRuns_visible (isBlankRun_parts _ coreX _) (isBlankRun_parts _ coreY _),
    trimRight_parts _ coreX hz, trimLeft_parts ha coreY, endsBlank_parts _ coreX hz,
    startsBlank_parts ha coreY, isEmpty_append, Bool.not_and]
  rfl

/-- Next to CJK text or full-width punctuation a gap is one space or nothing. -/
theorem tidyGap_spaced {g : Chars}
    (spaced : (CharClass.isSpaced (classOf x) || CharClass.isSpaced (classOf y)) = true)
    : tidyGap classOf wants x g y = gap (wants x y (!g.isEmpty)) := by
  rw [tidyGap, if_pos spaced]
  rfl

-----------------------------------------------------------------------------------------
-- The whole run
-----------------------------------------------------------------------------------------

/-- A cut next to CJK text or full-width punctuation makes no difference: the tidied pieces are
joined to the tidied run, and no whitespace is owed. -/
theorem tidy_joins_cut (classOf : Char → CharClass) (owed : Bool)
    (ends : (trimRight l).getLast? = some x) (starts : (trimLeft r).head? = some y)
    (hx : x ≠ '\r' ∧ x ≠ '\n') (hy : y ≠ '\r' ∧ y ≠ '\n')
    (spaced : (CharClass.isSpaced (classOf x) || CharClass.isSpaced (classOf y)) = true)
    : ∃ l' r' b,
        (Rules.ofClasses classOf).text l = .value l'
        ∧ (Rules.ofClasses classOf).text r = .value r'
        ∧ expectBoundary ((Rules.ofClasses classOf).join l' r' owed) = .ok b
        ∧ (Rules.ofClasses classOf).text (l ++ r)
          = .value (b.left ++ (gap b.insertSpace ++ b.right))
        ∧ b.owed = false := by
  obtain ⟨w, z, rfl, noBlankX, hz⟩ := exists_end ends
  obtain ⟨a, v, rfl, noBlankY, ha⟩ := exists_start starts
  have vx := isVisible_of_not_blank noBlankX hx.1 hx.2
  have vy := isVisible_of_not_blank noBlankY hy.1 hy.2
  obtain ⟨u, tail, left, right, whole⟩ := tidyText_cut vx vy noBlankX noBlankY hz ha
  have joined := join_ofClasses classOf (u ++ ([x] ++ z)) (a ++ ([y] ++ tail)) owed
  -- The boundary and the whole run ask the table about `x`, `y` and the same gap.
  rw [joinRuns_cut noBlankX noBlankY hz ha, spaceBetween_of_edges List.getLast?_concat rfl] at joined
  refine ⟨_, _, _, congrArg Reply.value left, congrArg Reply.value right, joined,
    congrArg Reply.value ?_, rfl⟩
  rw [whole, tidyGap_spaced spaced]
  rfl

/-- A cut inside a gap of a second line, with whitespace owed. -/
theorem tidy_joins_cut_gap
    : ∃ l' r' b,
        (Rules.ofClasses classify).text "a,b\n使用 \t".toList = .value l'
        ∧ (Rules.ofClasses classify).text " Python，x".toList = .value r'
        ∧ expectBoundary ((Rules.ofClasses classify).join l' r' true) = .ok b
        ∧ (Rules.ofClasses classify).text ("a,b\n使用 \t".toList ++ " Python，x".toList)
          = .value (b.left ++ (gap b.insertSpace ++ b.right))
        ∧ b.owed = false :=
  tidy_joins_cut (x := '用') (y := 'P') classify true (by decide +kernel) (by decide +kernel)
    (by decide) (by decide) (by decide +kernel)

end MixedScript.Spacing
