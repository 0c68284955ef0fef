import MixedScript.Proofs.Spacing.EdgeChange
import MixedScript.Proofs.Spacing.TextRun

/-! What the usual rules make of every boundary of a flow, in terms of the source alone. A leaf takes
part in a boundary on either side, and each changes it on its own side only. So the decision at a
boundary sees the edges of the source, wherever in the tree the leaves that touch it stand and
whatever has been done to them before. -/

namespace MixedScript.Spacing

variable {l r s t : Chars} {m m' : Mapping}

-----------------------------------------------------------------------------------------
-- Leaves
-----------------------------------------------------------------------------------------

/-- A leaf with nothing changed but whitespace; where it is a text that holds something visible, it
has the same spaces and tabs at one edge. -/
structure Keeps (edge : Chars → Chars) (n d : Node) : Prop where
  same : SameVisible n d
  kept : ∀ {s m t m'}, n = .text s m → d = .text t m' → isBlankRun s = false → edge t = edge s

variable {edge : Chars → Chars} {n d c c' left right : Node} {x y z : Except DeadEnd Node}

theorem SameVisible.of_text (h : SameVisible (.text s m) d)
    : ∃ t, d = .text t m ∧ visible t = visible s := by
  cases h with
  | text same => exact ⟨_, rfl, same⟩
  | refl => exact ⟨_, rfl, rfl⟩

/-- A leaf that is no text has stayed no text. -/
theorem SameVisible.isTextRun (h : SameVisible n d)
    : isTextRun d = isTextRun n := by
  cases h <;> rfl

theorem SameVisible.isToken (h : SameVisible n d)
    : isToken d = isToken n := by
  cases h <;> rfl

theorem Keeps.refl (edge : Chars → Chars) (n : Node)
    : Keeps edge n n where
  same := .refl
  kept := by
    rintro s m t m' rfl same -
    cases same
    rfl

theorem Keeps.text (same : visible t = visible s)
    (kept : isBlankRun s = false → edge t = edge s)
    : Keeps edge (.text s m) (.text t m) where
  same := .text same
  kept := by
    rintro _ _ _ _ ⟨rfl, rfl⟩ ⟨rfl, rfl⟩
    exact kept

/-- A blank text may become any other. -/
theorem Keeps.blank (bs : isBlankRun s = true) (bt : isBlankRun t = true)
    : Keeps edge (.text s m) (.text t m) :=
  .text (by rw [visible_eq_nil.mpr bs, visible_eq_nil.mpr bt]) (by simp [bs])

theorem Keeps.trans {a b c : Node} (h : Keeps edge a b) (h' : Keeps edge b c)
    : Keeps edge a c where
  same := h.same.trans h'.same
  kept := by
    rintro s m t m' rfl rfl filled
    obtain ⟨u, rfl, same⟩ := h.same.of_text
    rw [h'.kept rfl rfl ((isBlankRun_congr same).trans filled), h.kept rfl rfl filled]

/-- The edge leaf of a tree beside what has become of it. -/
abbrev Stays (edge : Chars → Chars) : Except DeadEnd Node → Except DeadEnd Node → Prop :=
  Found (Keeps edge)

theorem Stays.refl (x : Except DeadEnd Node)
    : Stays edge x x :=
  Found.refl (Keeps.refl edge) x

theorem Stays.trans (h : Stays edge x y) (h' : Stays edge y z)
    : Stays edge x z :=
  Found.trans Keeps.trans h h'

theorem Stays.text (h : Stays edge x y) (found : x = .ok (.text s m))
    : ∃ t, y = .ok (.text t m) ∧ visible t = visible s ∧ (isBlankRun s = false → edge t = edge s) := by
  obtain ⟨d, rfl, keeps⟩ := Found.ok h found
  obtain ⟨t, rfl, same⟩ := keeps.same.of_text
  exact ⟨t, rfl, same, keeps.kept rfl rfl⟩

theorem Stays.textSource (h : Stays edge x y) (found : y = .ok (.text t m))
    : ∃ s, x = .ok (.text s m) ∧ visible t = visible s ∧ (isBlankRun s = false → edge t = edge s) := by
  obtain ⟨n, rfl, keeps⟩ := Found.source h found
  have text : isTextRun n = true := keeps.same.isTextRun.symm
  cases n <;> simp only [isTextRun, Bool.false_eq_true] at text
  obtain ⟨t', same, sameVisible⟩ := keeps.same.of_text
  obtain ⟨rfl, rfl⟩ := same
  exact ⟨_, rfl, sameVisible, keeps.kept rfl rfl⟩

-----------------------------------------------------------------------------------------
-- Boundaries
-----------------------------------------------------------------------------------------

/-- A tree that ends in the text `l`, with nothing changed but whitespace and now followed by the
blanks `g`. -/
def EndsIn (d : Node) (l : Chars) (m : Mapping) (g : Chars) : Prop :=
  ∃ l', d.lastLeaf = .ok (.text l' m) ∧ visible l' = visible l ∧ trail l' = g

/-- A tree that starts with the text `r`, with nothing changed but whitespace and now preceded by the
blanks `g`. -/
def StartsIn (d : Node) (r : Chars) (m : Mapping) (g : Chars) : Prop :=
  ∃ r', d.firstLeaf = .ok (.text r' m) ∧ visible r' = visible r ∧ lead r' = g

/-- Whether a leaf is a text that holds something visible. -/
def isVisibleText : Node → Bool
  | .text s _ => !isBlankRun s
  | _ => false

theorem isVisibleText_of_isToken (token : isToken n = true)
    : isVisibleText n = false := by
  cases n <;> first | rfl | cases token

/-- A boundary of a flow that has been spaced exactly as its source says. -/
structure ExactSeam (c c' d : Node) (space : Bool) (d' : Node) : Prop where
  /-- There is a leaf on either side. -/
  leaves : (∃ l, c.lastLeaf = .ok l) ∧ ∃ r, c'.firstLeaf = .ok r
  /-- Two visible texts have no blanks at the boundary; the table says whether a space stands between
  the children. -/
  texts : ∀ {l m r m'}, c.lastLeaf = .ok (.text l m) → c'.firstLeaf = .ok (.text r m')
    → isBlankRun l = false → isBlankRun r = false
    → EndsIn d l m [] ∧ StartsIn d' r m' []
      ∧ space = spaceBetween classify (trimRight l) (trimLeft r) (endsBlank l || startsBlank r)
  /-- A visible text before a token ends in one space or in none, as the table says. -/
  beforeToken : ∀ {l m t}, c.lastLeaf = .ok (.text l m) → c'.firstLeaf = .ok t → isToken t = true
    → isBlankRun l = false
    → EndsIn d l m (gap (spaceBetween classify (trimRight l) sentinel (endsBlank l)))
  /-- A visible text after a token starts with one space or with none, as the table says. -/
  afterToken : ∀ {t r m}, c.lastLeaf = .ok t → c'.firstLeaf = .ok (.text r m) → isToken t = true
    → isBlankRun r = false
    → StartsIn d' r m (gap (spaceBetween classify sentinel (trimLeft r) (startsBlank r)))
  /-- Nothing stands between any other children. -/
  otherwise : ∀ {l r}, c.lastLeaf = .ok l → c'.firstLeaf = .ok r
    → (isVisibleText l && isVisibleText r) = false → space = false

/-- Where a tree ends in stays while its last leaf keeps its end. -/
theorem EndsIn.congr {e : Node} {g : Chars} (visible : isBlankRun l = false) (h : EndsIn d l m g)
    (stays : Stays trail d.lastLeaf e.lastLeaf)
    : EndsIn e l m g := by
  obtain ⟨l', found, same, ends⟩ := h
  obtain ⟨t, foundNow, sameNow, kept⟩ := stays.text found
  exact ⟨t, foundNow, sameNow.trans same, (kept ((isBlankRun_congr same).trans visible)).trans ends⟩

theorem StartsIn.congr {e : Node} {g : Chars} (visible : isBlankRun r = false)
    (h : StartsIn d r m g) (stays : Stays lead d.firstLeaf e.firstLeaf)
    : StartsIn e r m g := by
  obtain ⟨r', found, same, starts⟩ := h
  obtain ⟨t, foundNow, sameNow, kept⟩ := stays.text found
  exact ⟨t, foundNow, sameNow.trans same,
    (kept ((isBlankRun_congr same).trans visible)).trans starts⟩

theorem ExactSeam.congr {d' e e' : Node} {space : Bool} (h : ExactSeam c c' d space d')
    (left : Stays trail d.lastLeaf e.lastLeaf) (right : Stays lead d'.firstLeaf e'.firstLeaf)
    : ExactSeam c c' e space e' where
  leaves := h.leaves
  texts hl hr vl vr := by
    obtain ⟨ends, starts, decided⟩ := h.texts hl hr vl vr
    exact ⟨ends.congr vl left, starts.congr vr right, decided⟩
  beforeToken hl hr token vl := (h.beforeToken hl hr token vl).congr vl left
  afterToken hl hr token vr := (h.afterToken hl hr token vr).congr vr right
  otherwise := h.otherwise

-----------------------------------------------------------------------------------------
-- Changes at an edge
-----------------------------------------------------------------------------------------

variable {e : Node}

theorem EndChange.keeps (h : EndChange n d)
    : Keeps lead n d := by
  cases h with
  | same => exact .refl _ _
  | visible ha hc hz hz' =>
      refine .text ?_ fun _ => ?_
      · rw [visible_parts ha hz, visible_parts ha hz']
      · rw [lead_parts ha hc, lead_parts ha hc]
  | blank hs wide => exact .blank hs (isBlankRun_gap _)

theorem StartChange.keeps (h : StartChange n d)
    : Keeps trail n d := by
  cases h with
  | same => exact .refl _ _
  | visible ha ha' hc hz =>
      refine .text ?_ fun _ => ?_
      · rw [visible_parts ha hz, visible_parts ha' hz]
      · rw [trail_parts _ hc hz, trail_parts _ hc hz]
  | blank hs wide => exact .blank hs (isBlankRun_gap _)

/-- A change at the end of a tree leaves the start of its first leaf. -/
theorem EndEdit.stays (h : EndEdit d e)
    : Stays lead d.firstLeaf e.firstLeaf :=
  h.firstLeaf.mono EndChange.keeps

/-- A change at the start of a tree leaves the end of its last leaf. -/
theorem StartEdit.stays (h : StartEdit d e)
    : Stays trail d.lastLeaf e.lastLeaf :=
  h.lastLeaf.mono StartChange.keeps

/-- A tree with every boundary spaced exactly as its source says. -/
abbrev Exact : Node → Node → Prop :=
  Aligned SameVisible ExactSeam

/-- A row of children with every boundary spaced exactly as its source says. -/
abbrev ExactRow : List Node → Row → Prop :=
  AlignedRow SameVisible ExactSeam

theorem Exact.endEdit (h : Exact n d) (edit : EndEdit d e)
    : Exact n e := by
  cases edit with
  | none => exact h
  | change leafMap found changed =>
      refine Aligned.changeLast ⟨leafMap, fun before => before.trans changed.keeps.same, ?_⟩ found h
      intro c c' d space d' foundHere seam
      exact seam.congr (Stays.refl _) (EndEdit.change leafMap foundHere changed).stays

theorem Exact.startEdit (h : Exact n d) (edit : StartEdit d e)
    : Exact n e := by
  cases edit with
  | none => exact h
  | change leafMap found changed =>
      refine Aligned.changeFirst ⟨leafMap, fun before => before.trans changed.keeps.same, ?_⟩ found h
      intro c c' d space d' foundHere seam
      exact seam.congr (StartEdit.change leafMap foundHere changed).stays (Stays.refl _)

-----------------------------------------------------------------------------------------
-- What a boundary does
-----------------------------------------------------------------------------------------

theorem ExactSeam.visible {d' : Node} (hl : c.lastLeaf = .ok (.text l m))
    (hr : c'.firstLeaf = .ok (.text r m')) (vl : isBlankRun l = false) (vr : isBlankRun r = false)
    (ends : EndsIn d l m []) (starts : StartsIn d' r m' [])
    : ExactSeam c c' d
        (spaceBetween classify (trimRight l) (trimLeft r) (endsBlank l || startsBlank r)) d' where
  leaves := ⟨⟨_, hl⟩, _, hr⟩
  texts hl' hr' _ _ := by
    obtain ⟨rfl, rfl⟩ : _ ∧ _ := by simpa [hl] using hl'
    obtain ⟨rfl, rfl⟩ : _ ∧ _ := by simpa [hr] using hr'
    exact ⟨ends, starts, rfl⟩
  beforeToken _ hr' token _ := by
    obtain rfl := Except.ok.inj (hr.symm.trans hr')
    cases token
  afterToken hl' _ token _ := by
    obtain rfl := Except.ok.inj (hl.symm.trans hl')
    cases token
  otherwise hl' hr' blank := by
    obtain rfl := Except.ok.inj (hl.symm.trans hl')
    obtain rfl := Except.ok.inj (hr.symm.trans hr')
    simp [isVisibleText, vl, vr] at blank

theorem ExactSeam.visibleToken {d' t : Node} (hl : c.lastLeaf = .ok (.text l m))
    (hr : c'.firstLeaf = .ok t) (token : isToken t = true)
    (ends : EndsIn d l m (gap (spaceBetween classify (trimRight l) sentinel (endsBlank l))))
    : ExactSeam c c' d false d' where
  leaves := ⟨⟨_, hl⟩, _, hr⟩
  texts _ hr' _ _ := by
    obtain rfl := Except.ok.inj (hr.symm.trans hr')
    cases token
  beforeToken hl' _ _ _ := by
    obtain ⟨rfl, rfl⟩ : _ ∧ _ := by simpa [hl] using hl'
    exact ends
  afterToken hl' _ tokenLeft _ := by
    obtain rfl := Except.ok.inj (hl.symm.trans hl')
    cases tokenLeft
  otherwise _ _ _ := rfl

theorem ExactSeam.tokenVisible {d' t : Node} (hl : c.lastLeaf = .ok t)
    (hr : c'.firstLeaf = .ok (.text r m)) (token : isToken t = true)
    (starts : StartsIn d' r m (gap (spaceBetween classify sentinel (trimLeft r) (startsBlank r))))
    : ExactSeam c c' d false d' where
  leaves := ⟨⟨_, hl⟩, _, hr⟩
  texts hl' _ _ _ := by
    obtain rfl := Except.ok.inj (hl.symm.trans hl')
    cases token
  beforeToken hl' _ _ _ := by
    obtain rfl := Except.ok.inj (hl.symm.trans hl')
    cases token
  afterToken _ hr' _ _ := by
    obtain ⟨rfl, rfl⟩ : _ ∧ _ := by simpa [hr] using hr'
    exact starts
  otherwise _ _ _ := rfl

/-- Two leaves of which a visible text would have to meet another or a token, and does not. -/
def Unspaced (l r : Node) : Prop :=
  ¬ (isVisibleText l = true ∧ (isVisibleText r = true ∨ isToken r = true))
    ∧ ¬ (isToken l = true ∧ isVisibleText r = true)

theorem ExactSeam.unspaced {d' l r : Node} (hl : c.lastLeaf = .ok l) (hr : c'.firstLeaf = .ok r)
    (unspaced : Unspaced l r)
    : ExactSeam c c' d false d' where
  leaves := ⟨⟨l, hl⟩, r, hr⟩
  texts hl' hr' vl vr := by
    obtain rfl := Except.ok.inj (hl.symm.trans hl')
    obtain rfl := Except.ok.inj (hr.symm.trans hr')
    simp [Unspaced, isVisibleText, vl, vr] at unspaced
  beforeToken hl' hr' token vl := by
    obtain rfl := Except.ok.inj (hl.symm.trans hl')
    obtain rfl := Except.ok.inj (hr.symm.trans hr')
    simp [Unspaced, isVisibleText, vl, token] at unspaced
  afterToken hl' hr' token vr := by
    obtain rfl := Except.ok.inj (hl.symm.trans hl')
    obtain rfl := Except.ok.inj (hr.symm.trans hr')
    simp [Unspaced, isVisibleText, vr, token] at unspaced
  otherwise _ _ _ := rfl

/-- A boundary sees of the leaf on its left what the source has there. -/
structure SameEnd (l L : Chars) : Prop where
  visible : visible l = visible L
  trail : isBlankRun L = false → trail l = trail L

/-- A boundary sees of the leaf on its right what the source has there. -/
structure SameStart (r R : Chars) : Prop where
  visible : visible r = visible R
  lead : isBlankRun R = false → lead r = lead R

theorem SameEnd.endsBlank {L : Chars} (h : SameEnd l L) (visible : isBlankRun L = false)
    : endsBlank l = endsBlank L := by
  rw [endsBlank_eq_trail visible, endsBlank_eq_trail ((isBlankRun_congr h.visible).trans visible),
    h.trail visible]

theorem SameStart.startsBlank {R : Chars} (h : SameStart r R) (visible : isBlankRun R = false)
    : startsBlank r = startsBlank R := by
  rw [startsBlank_eq_lead visible, startsBlank_eq_lead ((isBlankRun_congr h.visible).trans visible),
    h.lead visible]

theorem SameEnd.getLast? {L : Chars} (h : SameEnd l L)
    : (trimRight l).getLast? = (trimRight L).getLast? := by
  rw [getLast?_trimRight, getLast?_trimRight, h.visible]

theorem SameStart.head? {R : Chars} (h : SameStart r R)
    : (trimLeft r).head? = (trimLeft R).head? := by
  rw [head?_trimLeft, head?_trimLeft, h.visible]

/-- A boundary between two texts spaces them exactly as the source says. -/
theorem exact_texts {carry : Carry} {b : Resolved} {L R : Chars}
    (sourceLeft : c.lastLeaf = .ok (.text L m)) (sourceRight : c'.firstLeaf = .ok (.text R m'))
    (hl : left.lastLeaf = .ok (.text l m)) (hr : right.firstLeaf = .ok (.text r m'))
    (sameLeft : SameEnd l L) (sameRight : SameStart r R)
    (h : resolve .standard carry left right = .ok b)
    : ExactSeam c c' b.left b.space b.right := by
  have blankLeft := isBlankRun_congr sameLeft.visible
  have blankRight := isBlankRun_congr sameRight.visible
  cases bl : isBlankRun l with
  | false =>
      cases br : isBlankRun r with
      | false =>
          have vL := blankLeft.symm.trans bl
          have vR := blankRight.symm.trans br
          rw [resolve_visible hl hr bl br] at h
          obtain rfl := Except.ok.inj h
          simp only [sameLeft.endsBlank vL, sameRight.startsBlank vR,
            spaceBetween_congr sameLeft.getLast? sameRight.head?]
          exact .visible sourceLeft sourceRight vL vR
            ⟨_, Node.lastLeaf_withText hl _, (visible_trimRight l).trans sameLeft.visible,
              (edges_trimRight bl).1⟩
            ⟨_, Node.firstLeaf_withText hr _, (visible_trimLeft r).trans sameRight.visible,
              (edges_trimLeft br).1⟩
      | true =>
          rw [resolve_before_blank hl hr bl br] at h
          obtain rfl := Except.ok.inj h
          exact .unspaced sourceLeft sourceRight
            (by simp [Unspaced, isVisibleText, isToken, ← blankRight, br])
  | true =>
      have unspaced : ExactSeam c c' b.left false b.right :=
        .unspaced sourceLeft sourceRight
          (by simp [Unspaced, isVisibleText, isToken, ← blankLeft, bl])
      cases br : isBlankRun r with
      | false =>
          rw [resolve_after_blank hl hr bl br] at h
          obtain rfl := Except.ok.inj h
          exact unspaced
      | true =>
          rw [resolve_blank hl hr bl br] at h
          obtain rfl := Except.ok.inj h
          exact unspaced

/-- A boundary between a text and a token spaces them exactly as the source says. -/
theorem exact_before_token {carry : Carry} {b : Resolved} {L : Chars} {t u : Node}
    (sourceLeft : c.lastLeaf = .ok (.text L m)) (sourceRight : c'.firstLeaf = .ok t)
    (hl : left.lastLeaf = .ok (.text l m)) (hr : right.firstLeaf = .ok u)
    (sameLeft : SameEnd l L) (token : isToken t = true) (stillToken : isToken u = true)
    (h : resolve .standard carry left right = .ok b)
    : ExactSeam c c' b.left b.space b.right := by
  have blankLeft := isBlankRun_congr sameLeft.visible
  rw [resolve_text_token hl hr stillToken] at h
  obtain rfl := Except.ok.inj h
  cases bl : isBlankRun l with
  | false =>
      have vL := blankLeft.symm.trans bl
      have shape := beforeToken_visible bl
      rw [spaceBetween_congr sameLeft.getLast? rfl, sameLeft.endsBlank vL] at shape
      have edges := edges_trimRight_append bl
        (isBlankRun_gap (spaceBetween classify (trimRight L) sentinel (endsBlank L)))
      have same := visible_spaceBeforeToken (spaceBeforeToken_standard l)
      rw [← shape] at edges
      exact .visibleToken sourceLeft sourceRight token
        ⟨_, Node.lastLeaf_withText hl _, same.trans sameLeft.visible, edges.1⟩
  | true =>
      exact .unspaced sourceLeft sourceRight
        (by simp [Unspaced, isVisibleText, isToken, ← blankLeft, bl])

theorem exact_after_token {carry : Carry} {b : Resolved} {R : Chars} {t u : Node}
    (sourceLeft : c.lastLeaf = .ok t) (sourceRight : c'.firstLeaf = .ok (.text R m))
    (hl : left.lastLeaf = .ok u) (hr : right.firstLeaf = .ok (.text r m))
    (sameRight : SameStart r R) (token : isToken t = true) (stillToken : isToken u = true)
    (h : resolve .standard carry left right = .ok b)
    : ExactSeam c c' b.left b.space b.right := by
  have blankRight := isBlankRun_congr sameRight.visible
  rw [resolve_token_text hl hr stillToken] at h
  obtain rfl := Except.ok.inj h
  cases br : isBlankRun r with
  | false =>
      have vR := blankRight.symm.trans br
      have shape := afterToken_visible br
      rw [spaceBetween_congr rfl sameRight.head?, sameRight.startsBlank vR] at shape
      have edges := edges_append_trimLeft br
        (isBlankRun_gap (spaceBetween classify sentinel (trimLeft R) (startsBlank R)))
      have same := visible_spaceAfterToken (spaceAfterToken_standard r)
      rw [← shape] at edges
      exact .tokenVisible sourceLeft sourceRight token
        ⟨_, Node.firstLeaf_withText hr _, same.trans sameRight.visible, edges.1⟩
  | true =>
      exact .unspaced sourceLeft sourceRight
        (by simp [Unspaced, isVisibleText, isToken, ← blankRight, br])

/-- Leaves that a boundary does not look at are not visible texts that meet another or a token. -/
theorem Apart.unspaced {l r : Node} (h : Apart l r)
    : Unspaced l r := by
  have text : ∀ n, isVisibleText n = true → isTextRun n = true := by
    intro n filled
    cases n <;> first | rfl | cases filled
  exact ⟨fun ⟨hl, hr⟩ => h.1 ⟨text _ hl, hr.imp_left (text _)⟩,
    fun ⟨hl, hr⟩ => h.2 ⟨hl, text _ hr⟩⟩

/-- A boundary that is resolved is spaced exactly as its source says. -/
theorem resolve_exact {carry : Carry} {b : Resolved}
    (ends : Stays trail c.lastLeaf left.lastLeaf)
    (starts : Stays lead c'.firstLeaf right.firstLeaf)
    (h : resolve .standard carry left right = .ok b)
    : ExactSeam c c' b.left b.space b.right := by
  cases resolves_of_ok h with
  | texts hl hr joined decided =>
      obtain ⟨L, sourceLeft, sameLeft, keptLeft⟩ := ends.textSource hl
      obtain ⟨R, sourceRight, sameRight, keptRight⟩ := starts.textSource hr
      exact exact_texts sourceLeft sourceRight hl hr ⟨sameLeft, keptLeft⟩ ⟨sameRight, keptRight⟩ h
  | beforeToken hl hr token spaced =>
      obtain ⟨L, sourceLeft, sameLeft, keptLeft⟩ := ends.textSource hl
      obtain ⟨t, sourceRight, same⟩ := starts.source hr
      exact exact_before_token sourceLeft sourceRight hl hr ⟨sameLeft, keptLeft⟩
        (same.same.isToken.symm.trans token) token h
  | afterToken hl hr token spaced =>
      obtain ⟨t, sourceLeft, same⟩ := ends.source hl
      obtain ⟨R, sourceRight, sameRight, keptRight⟩ := starts.textSource hr
      exact exact_after_token sourceLeft sourceRight hl hr ⟨sameRight, keptRight⟩
        (same.same.isToken.symm.trans token) token h
  | apart hl hr apart =>
      obtain ⟨L, sourceLeft, sameLeft⟩ := ends.source hl
      obtain ⟨R, sourceRight, sameRight⟩ := starts.source hr
      have sourceApart : Apart L R := by
        rw [Apart, ← sameLeft.same.isTextRun, ← sameRight.same.isTextRun, ← sameLeft.same.isToken,
          ← sameRight.same.isToken]
        exact apart
      exact .unspaced sourceLeft sourceRight sourceApart.unspaced

-----------------------------------------------------------------------------------------
-- Trees
-----------------------------------------------------------------------------------------

/-- A tree that has been spaced exactly inside and still starts and ends as its source does. -/
structure Spaced (n d : Node) : Prop where
  inside : Exact n d
  starts : Stays lead n.firstLeaf d.firstLeaf
  ends : Stays trail n.lastLeaf d.lastLeaf

/-- Children of a group that have been spaced exactly and still start and end as their source does. -/
structure SpacedEach (cs ds : List Node) : Prop where
  inside : AlignedEach SameVisible ExactSeam cs ds
  starts : ∀ parent, Stays lead (Node.firstLeafOf parent cs) (Node.firstLeafOf parent ds)
  ends : ∀ parent, Stays trail (Node.lastLeafOf parent cs) (Node.lastLeafOf parent ds)

/-- Children of a flow that have been spaced exactly. The row still starts as its first child did when
the work on the row came to it, and ends as its source does. -/
structure SpacedRow (before : Node) (cs : List Node) (nodes : Row) : Prop where
  inside : ExactRow cs nodes
  starts : ∀ parent, Stays lead before.firstLeaf (Node.firstLeafOf parent (weave nodes))
  ends : ∀ parent, Stays trail (Node.lastLeafOf parent cs) (Node.lastLeafOf parent (weave nodes))

theorem Spaced.leaf (single : n.isContainer = false) (still : d.isContainer = false)
    (starts : Keeps lead n d) (ends : Keeps trail n d)
    : Spaced n d where
  inside := .leaf single still starts.same
  starts := by
    rw [Node.firstLeaf_of_leaf single, Node.firstLeaf_of_leaf still]
    exact .leaf starts
  ends := by
    rw [Node.lastLeaf_of_leaf single, Node.lastLeaf_of_leaf still]
    exact .leaf ends

theorem Spaced.untouched (single : n.isContainer = false)
    : Spaced n n :=
  .leaf single single (.refl _ _) (.refl _ _)

theorem SpacedEach.cons {cs ds : List Node} (head : Spaced n d) (tail : SpacedEach cs ds)
    : SpacedEach (n :: cs) (d :: ds) where
  inside := .cons head.inside tail.inside
  starts _ := head.starts
  ends parent := by
    cases tail.inside with
    | nil => exact head.ends
    | cons => exact tail.ends parent

/-- The last child of a row, to whose first leaf an owed space may have been written back. -/
theorem SpacedRow.last (inside : Exact n d) (ends : Stays trail n.lastLeaf d.lastLeaf) (owed : Bool)
    : SpacedRow d [n] [(repay owed d, false)] where
  inside := .last (inside.startEdit (startEdit_repay owed d))
  starts _ := (firstLeaf_repay owed d).mono EndChange.keeps
  ends _ := ends.trans (startEdit_repay owed d).stays

/-- A row goes on before a child, once the boundary between them has been resolved. -/
theorem SpacedRow.cons {cs : List Node} {nodes : Row} {space : Bool} (inside : Exact n d)
    (edit : EndEdit d e) (joint : ExactSeam n c e space right)
    (tail : SpacedRow right (c :: cs) nodes)
    : SpacedRow d (n :: c :: cs) ((e, space) :: nodes) where
  inside := by
    have leftExact := inside.endEdit edit
    have starts := tail.starts .paragraph
    cases tail.inside with
    | last next => exact .cons leftExact (joint.congr (Stays.refl _) starts) (.last next)
    | cons next seam rest =>
        rw [weave_cons] at starts
        exact .cons leftExact (joint.congr (Stays.refl _) starts) (.cons next seam rest)
  starts _ := by
    rw [weave_cons]
    exact edit.stays
  ends parent := by
    have ends := tail.ends parent
    cases tail.inside <;>
    · rw [lastLeafOf_weave_cons]
      exact ends

variable {options : SpacingOptions}

mutual

/-- Spacing by the usual rules that nothing stops spaces every boundary below a node exactly. By
induction on the tree; along a row, the end of the child before is still that of its source. -/
theorem formatNode_exact (n : Node) (h : (formatNode .standard options n).fault = none)
    : Spaced n (formatNode .standard options n).result := by
  cases n with
  | group form cs m =>
      have inner := formatEach_exact cs h
      exact ⟨.group inner.inside, inner.starts _, inner.ends _⟩
  | flow form cs m =>
      cases cs with
      | nil => exact ⟨.flow .nil, .deadEnd, .deadEnd⟩
      | cons c cs =>
          obtain ⟨head, rest, same⟩ := formatFlow_cons h
          have first := formatNode_exact c head
          have row := formatRest_exact form.kind .empty first.inside first.ends cs rest
          simp only [formatNode, Run.map, same]
          exact ⟨.flow row.inside, first.starts.trans (row.starts _), row.ends _⟩
  | text s m =>
      simp only [formatNode]
      split
      · exact .leaf rfl rfl (.text (visible_tidyText s) fun _ => lead_tidyText)
          (.text (visible_tidyText s) fun _ => trail_tidyText)
      · exact .untouched rfl
  | math form s m =>
      simp only [formatNode]
      split
      · exact .leaf rfl rfl ⟨.math (dense_tidyMath s), nofun⟩ ⟨.math (dense_tidyMath s), nofun⟩
      · exact .untouched rfl
  | code | note | inert => exact .untouched rfl
termination_by sizeOf n

theorem formatEach_exact (cs : List Node) (h : (formatEach .standard options cs).fault = none)
    : SpacedEach cs (formatEach .standard options cs).result := by
  cases cs with
  | nil => exact ⟨.nil, fun _ => .deadEnd, fun _ => .deadEnd⟩
  | cons c cs =>
      obtain ⟨head, tail, same⟩ := formatEach_cons h
      rw [same]
      exact .cons (formatNode_exact c head) (formatEach_exact cs tail)
termination_by sizeOf cs

theorem formatRest_exact (kind : Kind) (carry : Carry) {n before : Node}
    (inside : Exact n before) (ends : Stays trail n.lastLeaf before.lastLeaf) (cs : List Node)
    (h : (formatRest .standard options kind carry before cs).fault = none)
    : SpacedRow before (n :: cs) (formatRest .standard options kind carry before cs).result := by
  cases cs with
  | nil => exact .last inside ends carry.owed
  | cons c cs =>
      obtain ⟨b, head, resolved, rest, same⟩ := formatRest_cons h
      have next := formatNode_exact c head
      have joint := resolve_exact ends next.starts resolved
      obtain ⟨edit, start⟩ := resolve_edits resolved
      have row := formatRest_exact kind b.carry (next.inside.startEdit start)
        (next.ends.trans start.stays) cs rest
      rw [same]
      exact .cons inside edit joint row
termination_by sizeOf cs

end

/-- Where spacing by the usual rules succeeds, every boundary of every flow is spaced exactly as its
source says: two visible texts meet without blanks, with a space between their children if the table
wants one there; a visible text beside a token has one space or none at that edge, as the table says;
and no other boundary gets a space between its children. The table is asked about the characters
next to the boundary and the blanks between them in the source. -/
theorem format_spaces_exactly (tree : Node) (h : (format .standard options tree).fault = none)
    : Aligned SameVisible ExactSeam tree (format .standard options tree).result :=
  (formatNode_exact tree h).inside

/-- A space goes between strong CJK text and a word, outside the markup, although the word has one of
its own; the word gets none before the code, and the CJK text after the code gets one. -/
theorem mixed_boundaries_spaced_exactly
    : let tree := Node.flow .paragraph [.flow .strong [.text ['中'] []] [], .text [' ', 'a'] [],
        .code ['x'] [], .text ['文'] []] []
      let spaced := Node.flow .paragraph [.flow .strong [.text ['中'] []] [], Node.space,
        .text ['a'] [], .code ['x'] [], .text [' ', '文'] []] []
      (format .standard {} tree).fault = none
      ∧ (format .standard {} tree).result = spaced
      ∧ Aligned SameVisible ExactSeam tree spaced :=
  ⟨rfl, rfl, @format_spaces_exactly {} _ rfl⟩

end MixedScript.Spacing
