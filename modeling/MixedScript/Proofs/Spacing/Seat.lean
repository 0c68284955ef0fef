import MixedScript.Proofs.Spacing.Prose

/-! Prose seen leaf by leaf. Once a tree of prose has been spaced, what has become of a leaf depends
on the leaf, on the two leaves next to it and on how it sits in the tree, and on nothing further
away. -/

namespace MixedScript.Spacing

/-- What spacing sees of a leaf of prose. -/
inductive Face where
  | text (s : Chars)
  /-- A token, whose content is not looked at. -/
  | token
  deriving DecidableEq, Repr

/-- A leaf of prose and the boundary before it. -/
structure Seat where
  /-- The leaf. -/
  face : Face
  /-- Whether the child on the right of the boundary has no other leaf. -/
  alone : Bool
  /-- Whether the child on the right of the boundary is the last of its flow. -/
  final : Bool
  deriving DecidableEq, Repr

/-- Whether a leaf is a text. -/
def Face.isText : Face → Bool
  | text _ => true
  | token => false

/-- Whether a leaf is a text of nothing but spaces and tabs. -/
def Face.isBlank : Face → Bool
  | text s => isBlankRun s
  | token => false

/-- Whether a leaf is a text that ends with a space or a tab. -/
def Face.isOpen : Face → Bool
  | text s => endsBlank s
  | token => false

-----------------------------------------------------------------------------------------
-- Leaves after spacing
-----------------------------------------------------------------------------------------

/-- Whether a blank leaf is left with a space. Before another blank leaf only the first of several
leaves in the last child of its flow is, after a text that ends with a blank. Before anything
visible all are, but for those that have been emptied by a text before them in a child that is not
the last: the space of such a leaf is found again only where it was alone in its child and a text
follows. -/
def keepsSpace (before : Option Face) (seat : Seat) : Option Face → Bool
  | none => true
  | some next =>
      if next.isBlank then before.any Face.isOpen && !seat.alone && seat.final
      else !(before.any Face.isText && !seat.final && (!seat.alone || !next.isText))

/-- The blanks at an edge of a visible text, by what stands beyond the edge. -/
def edge : Option Face → Chars → Chars
  | none, s => s
  | some .token, s => gap (!s.isEmpty)
  | some (.text _), _ => []

/-- The content of a text after spacing. -/
def settleText (before : Option Face) (seat : Seat) (after : Option Face) (s : Chars) : Chars :=
  if isBlankRun s then
    if before.isNone && after.isNone then s else gap (keepsSpace before seat after)
  else
    edge before (s.takeWhile Text.isInlineBlank)
      ++ (visiblePart s ++ edge after (Chars.takeEndWhile Text.isInlineBlank s))

/-- A leaf after spacing. -/
def Seat.settle (before : Option Face) (seat : Seat) (after : Option Face) : Face :=
  match seat.face with
  | .text s => .text (settleText before seat after s)
  | .token => .token

/-- Whether two leaves get a space of its own between them: two visible texts with a blank at either
edge. -/
def seam : Face → Face → Bool
  | .text l, .text r => !isBlankRun l && !isBlankRun r && (endsBlank l || startsBlank r)
  | _, _ => false

/-- A space as a leaf of its own, or nothing. -/
def spaceLeaf (wide : Bool) : List Face :=
  if wide then [.text [' ']] else []

/-- The leaves in a row of seats after spacing, given the leaves beyond its ends. -/
def settled (before : Option Face) : List Seat → Option Face → List Face
  | [], _ => []
  | [x], after => [x.settle before after]
  | x :: y :: rest, after =>
      x.settle before (some y.face) :: (spaceLeaf (seam x.face y.face)
        ++ settled (some x.face) (y :: rest) after)

-----------------------------------------------------------------------------------------
-- Leaves at a boundary
-----------------------------------------------------------------------------------------

/-- What a boundary makes of the two leaves that touch it. -/
structure Meeting where
  /-- The leaf on the left. -/
  left : Face
  /-- The leaf on the right. -/
  right : Face
  /-- Whether a space of its own goes between them. -/
  space : Bool
  /-- Whether whitespace is still owed. -/
  owed : Bool

/-- Two leaves of prose at a boundary, given whether whitespace is owed. -/
def meet (owed : Bool) : Face → Face → Meeting
  | .text l, .text r =>
      let b := joinProse l r owed
      ⟨.text b.left, .text b.right, b.insertSpace, b.owed⟩
  | .text l, .token => ⟨.text (trimRight l ++ gap (endsBlank l)), .token, false, false⟩
  | .token, .text r => ⟨.token, .text (gap (startsBlank r) ++ trimLeft r), false, false⟩
  | .token, .token => ⟨.token, .token, false, false⟩

/-- A leaf as the boundary before it leaves it. -/
def arrive : Option Face → Face → Face
  | none, f => f
  | _, .token => .token
  | some .token, .text s => .text (gap (startsBlank s) ++ trimLeft s)
  | some (.text _), .text s => .text (trimLeft s)

/-- Whether the boundary before a leaf leaves whitespace owed. -/
def owes : Option Face → Face → Bool
  | some (.text l), .text s => isBlankRun s && (endsBlank l || startsBlank s)
  | _, _ => false

/-- A leaf with whitespace that is still owed written back to it. -/
def repaid (owed : Bool) : Face → Face
  | .text [] => .text (gap owed)
  | f => f

/-- The leaf `now` is what the leaf `source` has become before the boundary on its right, with
`owed` handed on to that boundary. -/
inductive Stands : Face → Face → Bool → Prop
  | token {owed} : Stands .token .token owed
  | visible {s t owed} (source : isBlankRun s = false) (now : isBlankRun t = false)
      (ends : endsBlank t = endsBlank s)
    : Stands (.text s) (.text t) owed
  | blank {s t owed} (source : isBlankRun s = true) (filled : s ≠ []) (now : isBlankRun t = true)
      (held : t ≠ [] ∨ owed = true)
    : Stands (.text s) (.text t) owed

/-- The leaf `now` is what the leaf `source` has become before the boundary on its left. -/
inductive Opens : Face → Face → Prop
  | token : Opens .token .token
  | visible {s t} (source : isBlankRun s = false) (now : isBlankRun t = false)
      (starts : startsBlank t = startsBlank s)
    : Opens (.text s) (.text t)
  | blank {s t} (source : isBlankRun s = true) (now : isBlankRun t = true)
      : Opens (.text s) (.text t)

-----------------------------------------------------------------------------------------
-- One leaf
-----------------------------------------------------------------------------------------

variable {x : Seat} {before after : Option Face} {f q r : Face} {owed : Bool}

theorem isBlankRun_edge (beyond : Option Face) {a : Chars} (ha : isBlankRun a = true)
    : isBlankRun (edge beyond a) = true := by
  match beyond with
  | none => exact ha
  | some .token => exact isBlankRun_gap _
  | some (.text _) => rfl

theorem settleText_parts {a c z : Chars} (ha : isBlankRun a = true) (hc : Core c)
    (hz : isBlankRun z = true)
    : settleText before x after (a ++ (c ++ z)) = edge before a ++ (c ++ edge after z) := by
  have left := lead_parts ha hc z
  have right := trail_parts a hc hz
  simp only [lead, trail] at left right
  simp only [settleText, isBlankRun_parts a hc z, left, right, visiblePart,
    visiblePart_parts ha hc hz, Bool.false_eq_true, if_false]

theorem settleText_blank {s : Chars} (blank : isBlankRun s = true)
    (inside : before.isSome = true ∨ after.isSome = true)
    : settleText before x after s = gap (keepsSpace before x after) := by
  have notBoth : (before.isNone && after.isNone) = false := by
    cases before <;> cases after <;> simp_all
  simp only [settleText, blank, notBoth, Bool.false_eq_true, if_false, if_true]

/-- The forms of a leaf: a token, a blank text, or a text with a core. -/
inductive Form : Face → Prop
  | token : Form .token
  | blank {s} (blank : isBlankRun s = true) : Form (.text s)
  | parts {a c z} (ha : isBlankRun a = true) (hc : Core c) (hz : isBlankRun z = true)
    : Form (.text (a ++ (c ++ z)))

theorem Face.form (f : Face)
    : Form f := by
  cases f with
  | token => exact .token
  | text s =>
      cases blank : isBlankRun s with
      | true => exact .blank blank
      | false =>
          obtain ⟨a, c, z, rfl, ha, hc, hz⟩ := exists_core blank
          exact .parts ha hc hz

theorem text_ne_nil {s : Chars} (filled : Face.text s ≠ .text [])
    : s ≠ [] := by
  rintro rfl
  exact filled rfl

/-- A blank leaf that nothing follows keeps a space. -/
theorem settleText_end {s : Chars} (blank : isBlankRun s = true)
    : settleText (some q) x none s = [' '] :=
  settleText_blank blank (.inl rfl)

theorem arrive_blank {s : Chars} (blank : isBlankRun s = true)
    : arrive before (.text s) = .text (edge before s) := by
  match before with
  | none => rfl
  | some .token =>
      simp only [arrive, edge, trimLeft_eq_nil.mpr blank, startsBlank_of_blank blank,
        List.append_nil]
  | some (.text _) => simp only [arrive, edge, trimLeft_eq_nil.mpr blank]

theorem arrive_parts {a c : Chars} (ha : isBlankRun a = true) (hc : Core c) (z : Chars)
    : arrive before (.text (a ++ (c ++ z))) = .text (edge before a ++ (c ++ z)) := by
  match before with
  | none => rfl
  | some .token => simp only [arrive, edge, trimLeft_parts ha hc, startsBlank_parts ha hc]
  | some (.text _) => simp only [arrive, edge, trimLeft_parts ha hc, List.nil_append]

/-- A visible text with only its left edge changed opens as it did, and so does a blank leaf as long
as it is blank. -/
theorem opens_settle
    : Opens x.face (x.settle none after) := by
  obtain ⟨face, alone, final⟩ := x
  cases face.form with
  | token => exact .token
  | blank blank =>
      refine .blank blank ?_
      simp only [settleText, blank, if_true]
      split
      · exact blank
      · exact isBlankRun_gap _
  | @parts a c z ha hc hz =>
      simp only [Seat.settle, settleText_parts ha hc hz]
      refine .visible (isBlankRun_parts a hc z) (isBlankRun_parts _ hc _) ?_
      rw [startsBlank_parts ha hc, startsBlank_parts (isBlankRun_edge none ha) hc]
      rfl

/-- A leaf that is alone in its child stands before the next boundary as the one before has left
it. -/
theorem stands_arrive (filled : f ≠ .text [])
    : Stands f (arrive before f) (owes before f) := by
  cases f.form with
  | token => rcases before with _ | ⟨_ | _⟩ <;> exact .token
  | @blank s blank =>
      have hs := text_ne_nil filled
      rw [arrive_blank blank]
      refine .blank blank hs (isBlankRun_edge before blank) ?_
      match before with
      | none => exact .inl hs
      | some .token => exact .inl (by simp [edge, gap, hs])
      | some (.text l) => exact .inr (by simp [owes, blank, startsBlank_of_blank blank, hs])
  | @parts a c z ha hc hz =>
      rw [arrive_parts ha hc z]
      refine .visible (isBlankRun_parts a hc z) (isBlankRun_parts _ hc z) ?_
      rw [endsBlank_parts a hc hz, endsBlank_parts _ hc hz]

/-- The last of several leaves of a child stands before the next boundary as it was settled in its
child. -/
theorem stands_settle (filled : x.face ≠ .text [])
    : Stands x.face (x.settle (some q) none) owed := by
  obtain ⟨face, alone, final⟩ := x
  cases face.form with
  | token => exact .token
  | @blank s blank =>
      have hs := text_ne_nil filled
      simp only [Seat.settle, settleText_end blank]
      exact .blank blank hs rfl (.inl (List.cons_ne_nil _ _))
  | @parts a c z ha hc hz =>
      simp only [Seat.settle, settleText_parts ha hc hz]
      refine .visible (isBlankRun_parts a hc z) (isBlankRun_parts _ hc _) ?_
      rw [endsBlank_parts a hc hz, endsBlank_parts _ hc (isBlankRun_edge none hz)]
      rfl

/-- The leaf on the right of a boundary depends on the source of the leaf on the left alone. -/
theorem meet_right {l now : Face} (stands : Stands l now owed)
    : (meet owed now r).right = arrive (some l) r ∧ (meet owed now r).owed = owes (some l) r := by
  cases stands with
  | token => cases r <;> exact ⟨rfl, rfl⟩
  | visible source now ends =>
      cases r.form with
      | token => exact ⟨rfl, rfl⟩
      | blank blank =>
          simp only [meet, joinProse_before_blank now blank, arrive, trimLeft_eq_nil.mpr blank,
            owes, blank, ends, Bool.true_and, and_self]
      | @parts a c z ha hc hz =>
          have visible := isBlankRun_parts a hc z
          simp only [meet, joinProse_visible now visible, arrive, owes, visible, Bool.false_and,
            and_self]
  | @blank s t _ source filled now held =>
      cases r.form with
      | token => exact ⟨rfl, rfl⟩
      | blank blank =>
          have still : endsBlank t = true ∨ owed = true := by
            rw [endsBlank_of_blank now]
            simpa using held
          have written : endsBlank s = true := by simp [endsBlank_of_blank source, filled]
          simp only [meet, joinProse_blank now blank, arrive, trimLeft_eq_nil.mpr blank, owes,
            blank, written, true_and, Bool.true_or, Bool.true_and]
          rcases still with still | still <;> simp [still]
      | @parts a c z ha hc hz =>
          have visible := isBlankRun_parts a hc z
          simp only [meet, joinProse_after_blank now visible, arrive, owes, visible, Bool.false_and,
            and_self]

/-- A leaf without neighbours stays as it is. -/
theorem settle_single
    : x.settle none none = x.face := by
  obtain ⟨face, alone, final⟩ := x
  cases face.form with
  | token => rfl
  | blank blank => simp [Seat.settle, settleText, blank]
  | parts ha hc hz => simp only [Seat.settle, settleText_parts ha hc hz, edge]

/-- The visible end of a leaf on the left of a boundary. -/
theorem meet_parts (e : Chars) {c z : Chars} (hc : Core c) (hz : isBlankRun z = true)
    (opens : Opens f r)
    : let m := meet owed (.text (e ++ (c ++ z))) r
      m.left = .text (e ++ (c ++ edge (some f) z))
      ∧ ∀ a, m.space = seam (.text (a ++ (c ++ z))) f := by
  have visible := isBlankRun_parts e hc z
  have whole : e ++ (c ++ []) = trimRight (e ++ (c ++ z)) := by
    rw [trimRight_parts e hc hz, List.append_nil]
  cases opens with
  | token =>
      refine ⟨?_, fun _ => rfl⟩
      simp only [meet, edge, endsBlank_parts e hc hz, trimRight_parts e hc hz, List.append_assoc]
  | visible source now starts =>
      simp only [meet, joinProse_visible visible now, edge, whole, true_and]
      intro a
      simp only [seam, isBlankRun_parts a hc z, source, starts, endsBlank_parts _ hc hz,
        Bool.not_false, Bool.true_and]
  | blank source now =>
      simp only [meet, joinProse_before_blank visible now, edge, whole, true_and]
      intro a
      simp only [seam, source, Bool.not_true, Bool.and_false, Bool.false_and]

/-- A blank leaf on the left of a boundary keeps a space before a token if it had any, and before a
visible text if it had any or one is owed or found there; before another blank leaf it is
emptied. -/
theorem meet_blank {e : Chars} (he : isBlankRun e = true) (opens : Opens f r)
    : let m := meet owed (.text e) r
      m.left
        = .text (gap
            (match r with
            | .token => !e.isEmpty
            | .text t => !f.isBlank && (!e.isEmpty || startsBlank t || owed)))
      ∧ m.space = false := by
  cases opens with
  | token =>
      simp only [meet, trimRight_eq_nil.mpr he, endsBlank_of_blank he, List.nil_append, and_self]
  | visible source now starts =>
      simp only [meet, joinProse_after_blank he now, Face.isBlank, source, endsBlank_of_blank he,
        Bool.not_false, Bool.true_and, and_self]
  | blank source now =>
      simp only [meet, joinProse_blank he now, Face.isBlank, source, Bool.not_true, Bool.false_and,
        and_true]
      rfl

theorem seam_blank {s : Chars} (blank : isBlankRun s = true)
    : seam (.text s) f = false := by
  cases f <;> simp [seam, blank]

/-- A leaf that is alone in its child is settled by the boundary after it, unless the child is the
last of several. -/
theorem leave_alone (filled : x.face ≠ .text [])
    (place : before = none ∨ x.alone = true ∧ x.final = false) (opens : Opens f r)
    : let m := meet (owes before x.face) (arrive before x.face) r
      m.left = x.settle before (some f) ∧ m.space = seam x.face f := by
  obtain ⟨face, alone, final⟩ := x
  cases face.form with
  | token => rcases before with _ | ⟨_ | _⟩ <;> cases opens <;> exact ⟨rfl, rfl⟩
  | @parts a c z ha hc hz =>
      simp only [arrive_parts ha hc z, Seat.settle, settleText_parts ha hc hz]
      obtain ⟨left, space⟩ :=
        @meet_parts f r (owes before (.text (a ++ (c ++ z)))) (edge before a) c z hc hz opens
      exact ⟨left, space a⟩
  | @blank s blank =>
      have hs := text_ne_nil filled
      have settled := @settleText_blank ⟨.text s, alone, final⟩ before (some f) s blank (.inr rfl)
      obtain ⟨left, space⟩ :=
        @meet_blank f r (owes before (.text s)) (edge before s) (isBlankRun_edge before blank) opens
      simp only [arrive_blank blank, Seat.settle, settled, seam_blank blank]
      refine ⟨left.trans ?_, space⟩
      congr 2
      have owing : ∀ l, owes (some (.text l)) (.text s) = true := by
        intro l
        simp [owes, blank, startsBlank_of_blank blank, hs]
      rcases place with rfl | ⟨rfl, rfl⟩
      · cases opens with
        | token => simp [keepsSpace, edge, Face.isBlank, hs]
        | visible source now starts => simp [keepsSpace, edge, Face.isBlank, hs, source]
        | blank source now => simp [keepsSpace, edge, Face.isBlank, source]
      · cases opens with
        | token =>
            rcases before with _ | ⟨_ | _⟩ <;>
              simp [keepsSpace, edge, gap, Face.isBlank, Face.isText, hs]
        | visible source now starts =>
            rcases before with _ | ⟨_ | _⟩ <;>
              simp [keepsSpace, edge, gap, Face.isBlank, Face.isText, hs, source, owing]
        | blank source now => simp [keepsSpace, Face.isBlank, source]

/-- The last of several leaves of a child has been settled as far as the boundary after the child
goes. -/
theorem leave_settled (place : x.alone = true ∧ x.final = true) (opens : Opens f r)
    : let m := meet owed (x.settle (some q) none) r
      m.left = x.settle (some q) (some f) ∧ m.space = seam x.face f := by
  obtain ⟨face, alone, final⟩ := x
  obtain ⟨rfl, rfl⟩ : alone = true ∧ final = true := place
  cases face.form with
  | token => cases opens <;> exact ⟨rfl, rfl⟩
  | @parts a c z ha hc hz =>
      simp only [Seat.settle, settleText_parts ha hc hz]
      obtain ⟨left, space⟩ := @meet_parts f r owed (edge (some q) a) c z hc hz opens
      exact ⟨left, space a⟩
  | @blank s blank =>
      have settled := @settleText_blank ⟨.text s, true, true⟩ (some q) (some f) s blank (.inl rfl)
      obtain ⟨left, space⟩ := @meet_blank f r owed [' '] rfl opens
      simp only [Seat.settle, settleText_end blank, settled, seam_blank blank]
      refine ⟨left.trans ?_, space⟩
      congr 2
      cases opens with
      | token => simp [keepsSpace, Face.isBlank]
      | visible source now starts => simp [keepsSpace, Face.isBlank, source]
      | blank source now => simp [keepsSpace, Face.isBlank, source]

/-- The first of several leaves of a child is settled by the boundary before it, unless the child is
the last of its flow. -/
theorem arrive_first (place : before = none ∨ x.alone = false ∧ x.final = false)
    : arrive before (x.settle none (some f)) = x.settle before (some f) := by
  obtain ⟨face, alone, final⟩ := x
  cases face.form with
  | token => rcases before with _ | ⟨_ | _⟩ <;> rfl
  | @parts a c z ha hc hz =>
      simp only [Seat.settle, settleText_parts ha hc hz]
      exact arrive_parts ha hc _
  | @blank s blank =>
      rcases place with rfl | ⟨rfl, rfl⟩
      · rfl
      · have alike : ∀ b,
            settleText b ⟨.text s, false, false⟩ (some f) s = gap (keepsSpace b _ (some f)) :=
          fun b => settleText_blank blank (.inr rfl)
        simp only [Seat.settle, alike, arrive_blank (isBlankRun_gap _)]
        rcases before with _ | ⟨_ | _⟩ <;> cases hf : f.isBlank <;>
          simp [keepsSpace, edge, gap, hf, Face.isText, Face.isOpen]

theorem repaid_false
    : repaid false f = f := by
  rcases f with ⟨_ | ⟨_, _⟩⟩ | _ <;> rfl

theorem repaid_parts (a : Chars) {c : Chars} (hc : Core c) (z : Chars)
    : repaid owed (.text (a ++ (c ++ z))) = .text (a ++ (c ++ z)) := by
  have filled : a ++ (c ++ z) ≠ [] := by simp [hc.ne_nil]
  obtain ⟨first, rest, shape⟩ := List.exists_cons_of_ne_nil filled
  rw [shape]
  rfl

/-- The first of several leaves of the last child of a flow is settled when what is owed has been
repaid. -/
theorem repaid_first (place : before = none ∨ x.alone = false ∧ x.final = true)
    : repaid (owes before (x.settle none (some f))) (arrive before (x.settle none (some f)))
      = x.settle before (some f) := by
  obtain ⟨face, alone, final⟩ := x
  cases face.form with
  | token => rcases before with _ | ⟨_ | _⟩ <;> rfl
  | @parts a c z ha hc hz =>
      simp only [Seat.settle, settleText_parts ha hc hz]
      exact (congrArg (repaid _) (arrive_parts ha hc _)).trans (repaid_parts _ hc _)
  | @blank s blank =>
      rcases place with rfl | ⟨rfl, rfl⟩
      · exact repaid_false
      · have alike : ∀ b,
            settleText b ⟨.text s, false, true⟩ (some f) s = gap (keepsSpace b _ (some f)) :=
          fun b => settleText_blank blank (.inr rfl)
        simp only [Seat.settle, alike, arrive_blank (isBlankRun_gap _)]
        match before with
        | none => exact repaid_false
        | some .token =>
            cases hf : f.isBlank <;>
              simp [keepsSpace, edge, gap, repaid, owes, hf, Face.isText, Face.isOpen]
        | some (.text l) =>
            have owing : owes (some (.text l)) (.text (gap (!f.isBlank)))
                = (endsBlank l || !f.isBlank) := by
              cases f.isBlank <;>
                simp [owes, gap, isBlankRun, startsBlank, trimLeft, Text.isInlineBlank]
            cases hf : f.isBlank <;> simp_all [keepsSpace, edge, repaid, Face.isText, Face.isOpen]

/-- A leaf that is alone in the last child of a flow is settled when what is owed has been
repaid. -/
theorem repaid_alone (filled : x.face ≠ .text [])
    : repaid (owes before x.face) (arrive before x.face) = x.settle before none := by
  cases before with
  | none => exact repaid_false.trans settle_single.symm
  | some q =>
      obtain ⟨face, alone, final⟩ := x
      cases face.form with
      | token => cases q <;> rfl
      | @parts a c z ha hc hz =>
          simp only [Seat.settle, settleText_parts ha hc hz]
          exact (congrArg (repaid _) (arrive_parts ha hc _)).trans (repaid_parts _ hc _)
      | @blank s blank =>
          have hs := text_ne_nil filled
          simp only [Seat.settle, settleText_end blank, arrive_blank blank]
          cases q with
          | token => simp [edge, gap, repaid, hs]
          | text l => simp [edge, gap, repaid, owes, blank, startsBlank_of_blank blank, hs]

end MixedScript.Spacing
