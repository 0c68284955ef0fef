import MixedScript.Proofs.Spacing.ProseTree

/-! Gaps in prose. A token is as wide as any visible character, and a run of spaces and tabs is as
wide as one space. Seen so, spacing a tree of prose can only lose gaps, and it loses one exactly
where none of the blank leaves that stand in it is left with a space. -/

namespace MixedScript.Spacing

/-- The text of a leaf, with a placeholder for a token. -/
def shown (placeholder : Char) : Face → Chars
  | .text s => s
  | .token => [placeholder]

/-- The text of a tree, with a placeholder for every leaf that is not a text. -/
def shownText (placeholder : Char) (tree : Node) : Chars :=
  tree.leaves.flatMap
    (fun leaf => match leaf with
      | .text s _ => s
      | _ => [placeholder])

/-- Whether every gap of a row of seats keeps a space, given the leaf before it and whether the
blank leaves right before it have kept one. -/
def keepsGaps : Option Face → Bool → List Seat → Bool
  | _, kept, [] => kept
  | before, kept, x :: rest =>
      if x.face.isBlank then
        keepsGaps (some x.face)
          (before.any Face.isBlank && kept || keepsSpace before x (rest.head?.map Seat.face)) rest
      else kept && keepsGaps (some x.face) true rest

-----------------------------------------------------------------------------------------
-- Collapsed text
-----------------------------------------------------------------------------------------

/-- A text after a gap, with every run of spaces and tabs as wide as one space. -/
def collapseAfter (wide : Bool) (s : Chars) : Chars :=
  collapse (gap wide ++ s)

variable {a c s : Chars} {wide : Bool}

theorem collapseFrom_blank_append (blank : isBlankRun a = true) (s : Chars)
    : collapseFrom true (a ++ s) = collapseFrom true s := by
  induction a with
  | nil => rfl
  | cons first a ih =>
      obtain ⟨hfirst, ha⟩ : Text.isInlineBlank first = true ∧ isBlankRun a = true := by
        simpa [isBlankRun] using blank
      simp only [List.cons_append, collapseFrom, hfirst, if_true, ih ha]

/-- Blanks at the start widen the gap before them. -/
theorem collapseAfter_blank (blank : isBlankRun a = true) (s : Chars)
    : collapseAfter wide (a ++ s) = collapseAfter (wide || !a.isEmpty) s := by
  cases a with
  | nil => simp
  | cons first a =>
      obtain ⟨hfirst, ha⟩ : Text.isInlineBlank first = true ∧ isBlankRun a = true := by
        simpa [isBlankRun] using blank
      have space : Text.isInlineBlank ' ' = true := rfl
      cases wide <;>
        simp [collapseAfter, collapse, gap, collapseFrom, hfirst, space,
          collapseFrom_blank_append ha]

/-- After a visible character collapsing starts afresh. -/
theorem collapseFrom_visible_append {last : Char} (visible : Text.isInlineBlank last = false)
    (inRun : Bool)
    (cs s : Chars)
    : collapseFrom inRun (cs ++ last :: s) = collapseFrom inRun (cs ++ [last]) ++ collapse s := by
  induction cs generalizing inRun with
  | nil => simp [collapseFrom, visible, collapse]
  | cons c cs ih =>
      simp only [List.cons_append, collapseFrom, ih]
      split
      · split <;> rfl
      · rfl

/-- A core ends the gap before it. -/
theorem collapseAfter_core (core : Core c) (s : Chars)
    : collapseAfter wide (c ++ s) = gap wide ++ (collapse c ++ collapseAfter false s) := by
  obtain ⟨before, last, ends, hlast⟩ := core.ends
  have split : collapse (c ++ s) = collapse c ++ collapse s := by
    rw [ends, List.append_assoc, collapse, List.singleton_append, collapseFrom_visible_append hlast]
    rfl
  cases wide with
  | false => exact split
  | true =>
      obtain ⟨first, rest, rfl, hfirst⟩ := core.starts
      have after : collapse (' ' :: first :: (rest ++ s))
          = ' ' :: collapse (first :: (rest ++ s)) := by
        have space : Text.isInlineBlank ' ' = true := rfl
        simp [collapse, collapseFrom, space, hfirst]
      exact after.trans (congrArg (List.cons ' ') split)

theorem collapse_core (core : Core c)
    : ∃ first rest, collapse c = first :: rest ∧ Text.isInlineBlank first = false := by
  obtain ⟨first, rest, rfl, visible⟩ := core.starts
  exact ⟨first, collapseFrom false rest, by simp [collapse, collapseFrom, visible], visible⟩

-----------------------------------------------------------------------------------------
-- Lost gaps
-----------------------------------------------------------------------------------------

/-- `after` is `before` with gaps lost: nothing visible differs, nothing is there that was not there
before, and nothing is lost exactly if `kept`. -/
structure LosesGaps (kept : Bool) (after before : Chars) : Prop where
  /-- Nothing has appeared. -/
  sublist : after.Sublist before
  /-- Visible characters stay in their order. -/
  visible :
    after.filter (fun c => !Text.isInlineBlank c) = before.filter (fun c => !Text.isInlineBlank c)
  /-- Whether anything is lost. -/
  same : after = before ↔ kept = true

variable {kept : Bool} {g g' : Bool} {after before : Chars}

/-- A gap that may be lost before a core adds to the gaps that may be lost after it. -/
theorem LosesGaps.core_append (core : Core c) (narrower : g' = true → g = true)
    (h : LosesGaps kept after before)
    : LosesGaps (g' == g && kept) (gap g' ++ (collapse c ++ after))
        (gap g ++ (collapse c ++ before)) where
  sublist := by
    refine List.Sublist.append ?_ ((List.Sublist.refl _).append h.sublist)
    cases g' <;> cases g <;> simp_all [gap]
  visible := by
    have unseen : ∀ b, (gap b).filter (fun c => !Text.isInlineBlank c) = [] := by
      intro b
      cases b <;> rfl
    simp only [List.filter_append, unseen, h.visible]
  same := by
    obtain ⟨first, rest, shape, visible⟩ := collapse_core core
    have notSpace : first ≠ ' ' := by
      rintro rfl
      cases visible
    cases g' <;> cases g <;> simp_all [gap, h.same]

/-- How the gap before a row of seats and what is left of it are linked, given the leaf before it
and whether the blank leaves right before it have kept a space. Between two visible texts the gap on
the right is already counted. -/
def Linked (row : List Seat) (g g' kept : Bool) : Option Face → Prop
  | some (.text l) =>
      if isBlankRun l then g = true ∧ g' = kept
      else kept = true
        ∧ match row.head?.map Seat.face with
          | some (.text s) => if isBlankRun s then g' = false else g' = (g || startsBlank s)
          | _ => g' = g
  | _ => kept = true ∧ g = false ∧ g' = false

variable {left : Option Face} {x : Seat} {row : List Seat} {placeholder : Char}

/-- Before a blank leaf, what is left of a gap is what the blank leaves before it have kept. -/
theorem Linked.blank {s : Chars} (linked : Linked (x :: row) g g' kept left)
    (face : x.face = .text s)
    (blank : isBlankRun s = true)
    : g' = (left.any Face.isBlank && kept) := by
  match left with
  | none => exact linked.2.2
  | some .token => exact linked.2.2
  | some (.text l) =>
      cases hl : isBlankRun l with
      | true =>
          simp only [Linked, hl, if_true] at linked
          simp [Face.isBlank, hl, linked.2]
      | false =>
          simp only [Linked, hl, List.head?_cons, Option.map_some, face, blank, Bool.false_eq_true,
            if_false, if_true] at linked
          simp [Face.isBlank, hl, linked.2]

/-- Where no text follows the gap is kept, unless only blank leaves stand in it and none has kept a
space. -/
theorem Linked.ended (linked : Linked row g g' kept left)
    (noText : ∀ s, row.head?.map Seat.face ≠ some (.text s))
    : (g' = true → g = true) ∧ (g' == g) = kept := by
  match left with
  | none => simp_all [Linked]
  | some .token => simp_all [Linked]
  | some (.text l) =>
      cases hl : isBlankRun l with
      | true => simp_all [Linked]
      | false =>
          simp only [Linked, hl, Bool.false_eq_true, if_false] at linked
          simp [linked.1, linked.2]

/-- Before a visible text the gap is kept, together with the blanks that start the text. -/
theorem Linked.visible {z : Chars} (linked : Linked (x :: row) g g' kept left)
    (face : x.face = .text (a ++ (c ++ z))) (ha : isBlankRun a = true) (core : Core c)
    : ((g' || !(edge left a).isEmpty) = true → (g || !a.isEmpty) = true)
      ∧ ((g' || !(edge left a).isEmpty) == (g || !a.isEmpty)) = kept := by
  match left with
  | none =>
      obtain ⟨rfl, rfl, rfl⟩ := linked
      simp [edge]
  | some .token =>
      obtain ⟨rfl, rfl, rfl⟩ := linked
      cases a <;> simp [edge, gap]
  | some (.text l) =>
      cases hl : isBlankRun l with
      | true =>
          simp only [Linked, hl, if_true] at linked
          simp [edge, linked.1, linked.2]
      | false =>
          simp only [Linked, hl, List.head?_cons, Option.map_some, face, isBlankRun_parts a core z,
            startsBlank_parts ha core z, Bool.false_eq_true, if_false] at linked
          simp [edge, linked.1, linked.2]

/-- After a visible text the gap starts with the blanks that end it. -/
theorem linked_visible {z : Chars} (core : Core c) (hz : isBlankRun z = true)
    : let next := row.head?.map Seat.face
      Linked row (!z.isEmpty)
        (!(edge next z).isEmpty || next.any (seam (.text (a ++ (c ++ z))))) true
        (some (.text (a ++ (c ++ z)))) := by
  simp only [Linked, isBlankRun_parts a core z, Bool.false_eq_true, if_false, true_and]
  match hnext : row.head?.map Seat.face with
  | none => simp [edge]
  | some .token => cases z <;> simp [edge, seam, gap]
  | some (.text s) =>
      cases hs : isBlankRun s <;>
        simp [edge, seam, isBlankRun_parts a core z, endsBlank_parts a core hz, hs]

theorem settled_cons (left : Option Face) (x : Seat) (row : List Seat)
    : settled left (x :: row) none
      = x.settle left (row.head?.map Seat.face)
        :: (spaceLeaf ((row.head?.map Seat.face).any (seam x.face))
          ++ settled (some x.face) row none) := by
  cases row <;> rfl

theorem collapse_gap (wide : Bool)
    : collapseAfter wide [] = gap wide := by
  cases wide <;> rfl

theorem isBlankRun_settleText {s : Chars} {right : Option Face} (blank : isBlankRun s = true)
    : isBlankRun (settleText left x right s) = true := by
  simp only [settleText, blank, if_true]
  split
  · exact blank
  · exact isBlankRun_gap _

/-- A blank leaf is empty after spacing exactly if it does not keep a space. -/
theorem isEmpty_settleText {s : Chars} {right : Option Face} (blank : isBlankRun s = true)
    (filled : s ≠ [])
    : (settleText left x right s).isEmpty = !keepsSpace left x right := by
  simp only [settleText, blank, if_true]
  split
  · next alone =>
      obtain rfl : right = none := by simp_all
      simp [keepsSpace, filled]
  · exact isEmpty_gap _

theorem flatMap_spaceLeaf (wide : Bool)
    : (spaceLeaf wide).flatMap (shown placeholder) = gap wide := by
  cases wide <;> rfl

/-- Settling loses gaps and nothing else. By induction on the row; the gap before it is carried
along, as it was written and as it is left. -/
theorem settled_losesGaps (visible : Text.isInlineBlank placeholder = false) (row : List Seat)
    (filled : ∀ x ∈ row, x.face ≠ .text []) (left : Option Face) (g g' kept : Bool)
    (linked : Linked row g g' kept left)
    : LosesGaps (keepsGaps left kept row)
        (collapseAfter g' ((settled left row none).flatMap (shown placeholder)))
        (collapseAfter g (row.flatMap (fun x => shown placeholder x.face))) := by
  induction row generalizing left g g' kept with
  | nil =>
      obtain ⟨narrower, same⟩ := linked.ended (by simp)
      subst same
      simp only [settled, List.flatMap_nil, collapse_gap, keepsGaps]
      exact ⟨by cases g' <;> cases g <;> simp_all [gap], by cases g' <;> cases g <;> rfl,
        by cases g' <;> cases g <;> simp [gap]⟩
  | cons x row ih =>
      have later := ih (fun y mem => filled y (List.mem_cons_of_mem _ mem)) (some x.face)
      have hx := filled x (by simp)
      rw [settled_cons]
      simp only [List.flatMap_cons, List.flatMap_append, flatMap_spaceLeaf]
      obtain ⟨face, alone, final⟩ := x
      cases face.form with
      | token =>
          obtain ⟨narrower, same⟩ := linked.ended (by simp)
          have core : Core [placeholder] := ⟨⟨_, _, rfl, visible⟩, [], _, rfl, visible⟩
          have noSeam : (row.head?.map Seat.face).any (seam .token) = false := by
            cases row.head? <;> rfl
          have rest := (later false false true ⟨rfl, rfl, rfl⟩).core_append core narrower
          rw [same] at rest
          simp only [Seat.settle, shown, noSeam, gap, Bool.false_eq_true, if_false, List.nil_append,
            collapseAfter_core core, keepsGaps, Face.isBlank]
          exact rest
      | @blank s blank =>
          have hs : s ≠ [] := by rintro rfl; exact hx rfl
          have noSeam : (row.head?.map Seat.face).any (seam (.text s)) = false := by
            cases row.head? <;> simp [seam_blank blank]
          simp only [Seat.settle, shown, noSeam, collapseAfter_blank blank,
            collapseAfter_blank (isBlankRun_settleText blank), isEmpty_settleText blank hs, gap,
            Bool.false_eq_true, if_false, List.nil_append, keepsGaps, Face.isBlank, blank, if_true]
          refine later _ _ _ ?_
          simp [Linked, blank, linked.blank rfl blank, hs]
      | @parts a c z ha hc hz =>
          obtain ⟨narrower, same⟩ := linked.visible rfl ha hc
          have rest := (later _ _ _ (linked_visible hc hz)).core_append hc narrower
          rw [same] at rest
          simp only [Seat.settle, shown, settleText_parts ha hc hz, List.append_assoc,
            collapseAfter_blank ha, collapseAfter_blank (isBlankRun_edge left ha),
            collapseAfter_core hc, collapseAfter_blank hz,
            collapseAfter_blank (isBlankRun_edge _ hz), collapseAfter_blank (isBlankRun_gap _),
            isEmpty_gap, Bool.not_not, keepsGaps, Face.isBlank, isBlankRun_parts a hc z,
            Bool.false_eq_true, if_false, Bool.false_or]
          exact rest

-----------------------------------------------------------------------------------------
-- Trees
-----------------------------------------------------------------------------------------

theorem shownText_of_shows {n : Node} {faces : List Face} (h : Shows n.leaves faces)
    : shownText placeholder n = faces.flatMap (shown placeholder) := by
  have pointwise : ∀ (leaves : List Node) (faces : List Face), Shows leaves faces →
      leaves.flatMap (fun leaf => match leaf with | .text s _ => s | _ => [placeholder])
        = faces.flatMap (shown placeholder) := by
    intro leaves faces shows
    induction faces generalizing leaves with
    | nil => simp [List.map_eq_nil_iff.mp shows]
    | cons f faces ih =>
        obtain ⟨leaf, rest, rfl, hleaf, hrest⟩ := List.map_eq_cons_iff.mp shows
        rw [List.flatMap_cons, List.flatMap_cons, ih rest hrest]
        congr 1
        cases leaf <;> simp_all [face?] <;> subst hleaf <;> rfl
  exact pointwise n.leaves faces h

/-- Spacing prose never changes a visible character and never adds a gap; every gap stays exactly if
in each run of blank leaves one keeps a space. -/
theorem format_keeps_gaps_iff (visible : Text.isInlineBlank placeholder = false) {tree : Node}
    (prose : Prose tree) (options : SpacingOptions)
    (h : (format .standard options tree).fault = none)
    : let after := collapse (shownText placeholder (format .standard options tree).result)
      let before := collapse (shownText placeholder tree)
      after.Sublist before
      ∧ after.filter (fun c => !Text.isInlineBlank c)
        = before.filter (fun c => !Text.isInlineBlank c)
      ∧ (after = before ↔ keepsGaps none true (seats true true tree) = true) := by
  obtain ⟨shows, -, -⟩ := formatNode_settled prose h true true
  have filled : ∀ x ∈ seats true true tree, x.face ≠ .text [] :=
    fun x mem => (seats_prose true true prose x mem).2
  have loses :=
    settled_losesGaps visible (seats true true tree) filled none false false true ⟨rfl, rfl, rfl⟩
  rw [← shownText_of_shows shows, ← List.flatMap_map,
    ← shownText_of_shows (seats_shows true true prose)] at loses
  exact ⟨loses.sublist, loses.visible, loses.same⟩

/-- Gaps before and after a token are kept, also where emphasis starts with one. -/
theorem gaps_beside_token_kept
    : let tree := Node.flow .paragraph
        [.text ['s', 'e', 'e', ' '] [], .code ['x'] [],
          .flow .emphasis [.text ['\t', 'n', 'o', 'w'] []] []] []
      (format .standard {} tree).fault = none
      ∧ collapse (shownText '#' (format .standard {} tree).result)
        = collapse (shownText '#' tree) := by
  refine ⟨rfl, (@format_keeps_gaps_iff '#' rfl _ (.flow ?_) {} rfl).2.2.mpr rfl⟩
  intro c mem
  simp only [List.mem_cons, List.not_mem_nil, or_false] at mem
  rcases mem with rfl | rfl | rfl
  · exact .text (by decide) rfl
  · exact .code
  · refine .flow (fun d mem => ?_)
    obtain rfl := List.mem_singleton.mp mem
    exact .text (by decide) rfl

/-- A gap is lost where a blank text starts emphasis that another text follows: `a`, emphasis of a
space and `b`, and `c` become `abc`. -/
theorem gap_starting_emphasis_lost
    : ¬ ∀ (placeholder : Char) (cs : List Node) (m : Mapping),
        let tree := Node.flow .paragraph cs m
        Text.isInlineBlank placeholder = false → Prose tree →
          (format .standard {} tree).fault = none →
        collapse (shownText placeholder (format .standard {} tree).result)
          = collapse (shownText placeholder tree) := by
  intro kept
  have prose : Prose (.flow .paragraph
      [.text ['a'] [], .flow .emphasis [.text [' '] [], .text ['b'] []] [],
        .text ['c'] []] []) := by
    refine .flow (fun c mem => ?_)
    simp only [List.mem_cons, List.not_mem_nil, or_false] at mem
    rcases mem with rfl | rfl | rfl
    · exact .text (by decide) rfl
    · refine .flow (fun d mem => ?_)
      simp only [List.mem_cons, List.not_mem_nil, or_false] at mem
      rcases mem with rfl | rfl <;> exact .text (by decide) rfl
    · exact .text (by decide) rfl
  exact absurd (kept '#' _ [] rfl prose rfl) (by decide)

end MixedScript.Spacing
