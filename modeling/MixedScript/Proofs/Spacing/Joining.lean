import MixedScript.Proofs.Spacing.Step
import MixedScript.Proofs.Spacing.Trim

/-! What the usual rules make of a boundary, by what touches it: a text with something visible in
it, a blank text, or a token. -/

namespace MixedScript.Spacing

variable {carry : Carry} {left right : Node} {l r s : Chars} {m m' : Mapping}

-----------------------------------------------------------------------------------------
-- Two runs
-----------------------------------------------------------------------------------------

section Runs

variable {Space : Type} {wants : Chars → Chars → Bool → Space} {no : Space} {owed : Bool}

theorem isEmpty_trimRight (s : Chars)
    : (trimRight s).isEmpty = isBlankRun s := by
  rw [Bool.eq_iff_iff, List.isEmpty_iff, trimRight_eq_nil]

theorem isEmpty_trimLeft (s : Chars)
    : (trimLeft s).isEmpty = isBlankRun s := by
  rw [Bool.eq_iff_iff, List.isEmpty_iff, trimLeft_eq_nil]

theorem joinRuns_visible (hl : isBlankRun l = false) (hr : isBlankRun r = false)
    : joinRuns wants no l r owed
      = ⟨trimRight l, trimLeft r, wants (trimRight l) (trimLeft r) (endsBlank l || startsBlank r),
          false⟩ := by
  simp only [joinRuns, isEmpty_trimRight, isEmpty_trimLeft, hl, hr]
  rfl

theorem joinRuns_before_blank (hl : isBlankRun l = false) (hr : isBlankRun r = true)
    : joinRuns wants no l r owed = ⟨trimRight l, [], no, endsBlank l || startsBlank r⟩ := by
  simp only [joinRuns, isEmpty_trimRight, isEmpty_trimLeft, hl, hr]
  rfl

theorem joinRuns_after_blank (hl : isBlankRun l = true) (hr : isBlankRun r = false)
    : joinRuns wants no l r owed
      = ⟨gap (endsBlank l || startsBlank r || owed), trimLeft r, no, false⟩ := by
  simp only [joinRuns, isEmpty_trimRight, isEmpty_trimLeft, hl, hr]
  rfl

theorem joinRuns_blank (hl : isBlankRun l = true) (hr : isBlankRun r = true)
    : joinRuns wants no l r owed = ⟨[], [], no, endsBlank l || startsBlank r || owed⟩ := by
  simp only [joinRuns, isEmpty_trimRight, isEmpty_trimLeft, hl, hr]
  rfl

end Runs

-----------------------------------------------------------------------------------------
-- Two texts
-----------------------------------------------------------------------------------------

/-- The table is asked about the characters next to the gap alone. -/
theorem spaceBetween_of_edges {classOf : Char → CharClass} {x y : Char}
    (ends : l.getLast? = some x) (starts : r.head? = some y) (had : Bool)
    : spaceBetween classOf l r had = wantsSpace (classOf x) (classOf y) had := by
  rw [spaceBetween, lastChar?, ends, starts]

theorem visiblePart_trimRight (hl : isBlankRun l = false)
    : (visiblePart (trimRight l)).isEmpty = false := by
  obtain ⟨a, c, z, rfl, ha, hc, hz⟩ := exists_core hl
  have core := visiblePart_parts ha hc (z := []) rfl
  rw [List.append_nil] at core
  rw [trimRight_parts a hc hz, visiblePart, core]
  obtain ⟨_, _, rfl, _⟩ := hc.starts
  rfl

/-- The visible run that is handed on from a blank text: a text of its own hands on what it was
given. -/
def handedOn (carry : Carry) (left : Node) : Chars :=
  if isTextRun left then carry.seen else []

/-- Whether a blank text before a visible one keeps a space that it holds or is owed: a text of its
own does only if the visible run before it wants one, too. -/
def keepsBlank (carry : Carry) (left : Node) (r : Chars) : Bool :=
  spaceBetween classify (handedOn carry left) r true

/-- Two visible texts are trimmed, and the table decides between them. -/
theorem resolve_visible (hl : left.lastLeaf = .ok (.text l m))
    (hr : right.firstLeaf = .ok (.text r m')) (vl : isBlankRun l = false)
    (vr : isBlankRun r = false)
    : resolve .standard carry left right
      = .ok ⟨left.mapLastLeaf (Node.withText (trimRight l)),
          right.mapFirstLeaf (Node.withText (trimLeft r)),
          spaceBetween classify (trimRight l) (trimLeft r) (endsBlank l || startsBlank r),
          ⟨false, trimRight l⟩⟩ := by
  rw [resolve_texts hl hr, resolveTexts, join_standard, joinRuns_visible vl vr]
  have seen := visiblePart_trimRight vl
  simp only [bind, Except.bind, keepsLeft, repeatsCarried, seen, Bool.and_false, Bool.false_and,
    joinedTexts, pure, Except.pure, if_true, Bool.not_false, Bool.false_eq_true, if_false]

/-- A visible text before a blank one is trimmed, and the blank one is emptied. -/
theorem resolve_before_blank (hl : left.lastLeaf = .ok (.text l m))
    (hr : right.firstLeaf = .ok (.text r m')) (vl : isBlankRun l = false)
    (br : isBlankRun r = true)
    : resolve .standard carry left right
      = .ok ⟨left.mapLastLeaf (Node.withText (trimRight l)),
          right.mapFirstLeaf (Node.withText []), false,
          ⟨endsBlank l || startsBlank r, trimRight l⟩⟩ := by
  rw [resolve_texts hl hr, resolveTexts, join_standard, joinRuns_before_blank vl br]
  have seen := visiblePart_trimRight vl
  simp only [bind, Except.bind, keepsLeft, repeatsCarried, seen, Bool.and_false, Bool.false_and,
    joinedTexts, pure, Except.pure, if_true, Bool.not_false, Bool.false_eq_true, if_false]

/-- A space on its own is asked for only where it repeats one that was handed on. -/
theorem keepsLeft_space (filled : r.isEmpty = false)
    : keepsLeft .standard carry left ⟨gap true, r, false, false⟩ = .ok (keepsBlank carry left r) := by
  have asked : repeatsCarried carry left ⟨gap true, r, false, false⟩
      = (!carry.seen.isEmpty && isTextRun left) := by
    simp only [repeatsCarried, filled, gap]
    rfl
  rw [keepsLeft, asked, keepsBlank, handedOn]
  -- Where nothing is handed on the table leaves the decision to the source, and there is a space.
  cases isTextRun left <;> cases carry.seen <;> rfl

/-- A blank text before a visible one is left with a space that it holds or is owed, if it keeps
it. -/
theorem resolve_after_blank (hl : left.lastLeaf = .ok (.text l m))
    (hr : right.firstLeaf = .ok (.text r m')) (bl : isBlankRun l = true)
    (vr : isBlankRun r = false)
    : resolve .standard carry left right
      = .ok ⟨left.mapLastLeaf (Node.withText
            (gap ((endsBlank l || startsBlank r || carry.owed)
              && keepsBlank carry left (trimLeft r)))),
          right.mapFirstLeaf (Node.withText (trimLeft r)), false,
          ⟨false, handedOn carry left⟩⟩ := by
  rw [resolve_texts hl hr, resolveTexts, join_standard, joinRuns_after_blank bl vr]
  have filled : (trimLeft r).isEmpty = false := (isEmpty_trimLeft r).trans vr
  generalize (endsBlank l || startsBlank r || carry.owed) = wide
  cases wide with
  | false => rfl
  | true =>
      simp only [bind, Except.bind, keepsLeft_space filled, pure, Except.pure, joinedTexts,
        Bool.true_and]
      cases keepsBlank carry left (trimLeft r) <;> rfl

/-- Two blank texts are emptied. -/
theorem resolve_blank (hl : left.lastLeaf = .ok (.text l m))
    (hr : right.firstLeaf = .ok (.text r m')) (bl : isBlankRun l = true) (br : isBlankRun r = true)
    : resolve .standard carry left right
      = .ok ⟨left.mapLastLeaf (Node.withText []), right.mapFirstLeaf (Node.withText []), false,
          ⟨endsBlank l || startsBlank r || carry.owed, handedOn carry left⟩⟩ := by
  rw [resolve_texts hl hr, resolveTexts, join_standard, joinRuns_blank bl br]
  rfl

-----------------------------------------------------------------------------------------
-- A text and a token
-----------------------------------------------------------------------------------------

/-- A text before a token, spaced by the usual rules. -/
def beforeToken (s : Chars) : Chars :=
  trimRight s ++ gap (spaceBetween classify (anchor (trimRight s)) sentinel (endsBlank s))

/-- A text after a token, spaced by the usual rules. -/
def afterToken (s : Chars) : Chars :=
  gap (spaceBetween classify sentinel (anchor (trimLeft s)) (startsBlank s)) ++ trimLeft s

theorem spaceBeforeToken_standard (s : Chars)
    : spaceBeforeToken .standard s = .ok (beforeToken s) := by
  simp only [spaceBeforeToken, Rules.standard, Rules.ofClasses, Rules.ofDecision, expectDecision,
    beforeToken, endsBlank, bind, Except.bind]
  split <;> simp_all [gap, pure, Except.pure]

theorem spaceAfterToken_standard (s : Chars)
    : spaceAfterToken .standard s = .ok (afterToken s) := by
  simp only [spaceAfterToken, Rules.standard, Rules.ofClasses, Rules.ofDecision, expectDecision,
    afterToken, startsBlank, bind, Except.bind]
  split <;> simp_all [gap, pure, Except.pure]

theorem beforeToken_visible (vs : isBlankRun s = false)
    : beforeToken s
      = trimRight s ++ gap (spaceBetween classify (trimRight s) sentinel (endsBlank s)) := by
  rw [beforeToken, anchor, isEmpty_trimRight, vs]
  rfl

theorem afterToken_visible (vs : isBlankRun s = false)
    : afterToken s
      = gap (spaceBetween classify sentinel (trimLeft s) (startsBlank s)) ++ trimLeft s := by
  rw [afterToken, anchor, isEmpty_trimLeft, vs]
  rfl

theorem beforeToken_blank (bs : isBlankRun s = true)
    : beforeToken s = gap (endsBlank s) := by
  rw [beforeToken, trimRight_eq_nil.mpr bs]
  rfl

theorem afterToken_blank (bs : isBlankRun s = true)
    : afterToken s = gap (startsBlank s) := by
  rw [afterToken, trimLeft_eq_nil.mpr bs, List.append_nil]
  rfl

theorem resolve_text_token {t : Node} (hl : left.lastLeaf = .ok (.text l m))
    (hr : right.firstLeaf = .ok t) (token : isToken t = true)
    : resolve .standard carry left right
      = .ok ⟨left.mapLastLeaf (Node.withText (beforeToken l)), right, false, .empty⟩ := by
  rw [resolve_before_token hl hr token, spaceBeforeToken_standard]
  rfl

theorem resolve_token_text {t : Node} (hl : left.lastLeaf = .ok t)
    (hr : right.firstLeaf = .ok (.text r m)) (token : isToken t = true)
    : resolve .standard carry left right
      = .ok ⟨left, right.mapFirstLeaf (Node.withText (afterToken r)), false, .empty⟩ := by
  rw [resolve_after_token hl hr token, spaceAfterToken_standard]
  rfl

-----------------------------------------------------------------------------------------
-- Any two leaves
-----------------------------------------------------------------------------------------

/-- A boundary between children that have leaves there is resolved. -/
theorem resolve_succeeds (carry : Carry) {x y : Node} (hl : left.lastLeaf = .ok x)
    (hr : right.firstLeaf = .ok y)
    : ∃ b, resolve .standard carry left right = .ok b := by
  rcases touching x y with ⟨l, m, r, m', rfl, rfl⟩ | ⟨l, m, rfl, token⟩ | ⟨token, r, m, rfl⟩ | apart
  · cases bl : isBlankRun l <;> cases br : isBlankRun r
    · exact ⟨_, resolve_visible hl hr bl br⟩
    · exact ⟨_, resolve_before_blank hl hr bl br⟩
    · exact ⟨_, resolve_after_blank hl hr bl br⟩
    · exact ⟨_, resolve_blank hl hr bl br⟩
  · exact ⟨_, resolve_text_token hl hr token⟩
  · exact ⟨_, resolve_token_text hl hr token⟩
  · exact ⟨_, resolve_apart hl hr apart⟩

end MixedScript.Spacing
