import MixedScript.Proofs.Spacing.EdgeChange
import MixedScript.Proofs.Spacing.MathSource
import MixedScript.Proofs.Spacing.TextRun

/-! Trees in which spacing finds nothing to do, but for a blank text that meets another. What holds at
a boundary depends on the leaves that touch it and on how its left child was reached; it still holds
when the boundaries outside a tree change the edges of the tree. -/

namespace MixedScript.Spacing

variable {options : SpacingOptions} {l r s t : Chars} {m m' : Mapping} {n d e w w' : Node}
  {arrived onward : Option (Option Char)}

-----------------------------------------------------------------------------------------
-- Decisions by characters
-----------------------------------------------------------------------------------------

/-- The decision between two characters; where there is none, the source decides. -/
def spaceAt (left right : Option Char) (had : Bool) : Bool :=
  match left, right with
  | some l, some r => wantsSpace (classify l) (classify r) had
  | _, _ => had

theorem spaceBetween_eq (l r : Chars) (had : Bool)
    : spaceBetween classify l r had = spaceAt l.getLast? r.head? had := rfl

theorem spaceAt_none (right : Option Char) (had : Bool)
    : spaceAt none right had = had := rfl

theorem spaceAt_mono {left right : Option Char} (h : spaceAt left right false = true)
    : spaceAt left right true = true := by
  unfold spaceAt at *
  split
  · exact wantsSpace_mono h
  · rfl

/-- Where no space is wanted between two runs that had one, none is wanted where there was none. -/
theorem spaceAt_tight {left right : Option Char} {had : Bool}
    (h : spaceAt left right had = false)
    : spaceAt left right false = false := by
  cases had with
  | false => exact h
  | true =>
      by_contra wanted
      rw [spaceAt_mono (Bool.eq_true_of_not_eq_false wanted)] at h
      cases h

/-- A decision that has been carried out is made again. -/
theorem spaceAt_spaceAt (left right : Option Char) (had : Bool)
    : spaceAt left right (spaceAt left right had) = spaceAt left right had := by
  cases decided : spaceAt left right had with
  | true =>
      cases had with
      | true => exact decided
      | false => exact spaceAt_mono decided
  | false => exact spaceAt_tight decided

/-- Where a space is wanted at all, it is wanted where there was one. -/
theorem spaceAt_wide {left right : Option Char} {had : Bool} (h : spaceAt left right had = true)
    : spaceAt left right true = true := by
  cases had with
  | false => exact spaceAt_mono h
  | true => exact h

-----------------------------------------------------------------------------------------
-- Runs at a boundary
-----------------------------------------------------------------------------------------

/-- A blank run as spacing leaves it: one space, or nothing. -/
def Narrow (s : Chars) : Prop :=
  ∃ wide, s = gap wide

theorem narrow_gap (wide : Bool)
    : Narrow (gap wide) :=
  ⟨wide, rfl⟩

theorem Narrow.isBlankRun (h : Narrow s)
    : isBlankRun s = true := by
  obtain ⟨wide, rfl⟩ := h
  exact isBlankRun_gap wide

theorem gap_endsBlank (h : Narrow s)
    : gap (endsBlank s) = s := by
  obtain ⟨wide, rfl⟩ := h
  cases wide <;> rfl

theorem gap_startsBlank (h : Narrow s)
    : gap (startsBlank s) = s := by
  obtain ⟨wide, rfl⟩ := h
  cases wide <;> rfl

theorem Narrow.beforeToken (h : Narrow s)
    : beforeToken s = s := by
  rw [beforeToken_blank h.isBlankRun, gap_endsBlank h]

theorem Narrow.afterToken (h : Narrow s)
    : afterToken s = s := by
  rw [afterToken_blank h.isBlankRun, gap_startsBlank h]

section Parts

variable {a c z : Chars}

theorem getLast?_parts (hc : Core c)
    : (a ++ c).getLast? = c.getLast? := by
  obtain ⟨before, last, rfl, -⟩ := hc.ends
  rw [← List.append_assoc, List.getLast?_concat, List.getLast?_concat]

theorem head?_parts (hc : Core c)
    : (c ++ z).head? = c.head? := by
  obtain ⟨first, rest, rfl, -⟩ := hc.starts
  rfl

theorem beforeToken_parts (hc : Core c) (hz : isBlankRun z = true)
    : beforeToken (a ++ (c ++ z))
      = a ++ (c ++ gap (spaceAt c.getLast? (some 'A') (!z.isEmpty))) := by
  rw [beforeToken_visible (isBlankRun_parts a hc z), trimRight_parts a hc hz,
    endsBlank_parts a hc hz, spaceBetween_eq, getLast?_parts hc, List.append_assoc]
  rfl

theorem afterToken_parts (ha : isBlankRun a = true) (hc : Core c)
    : afterToken (a ++ (c ++ z))
      = gap (spaceAt (some 'A') c.head? (!a.isEmpty)) ++ (c ++ z) := by
  rw [afterToken_visible (isBlankRun_parts a hc z), trimLeft_parts ha hc, startsBlank_parts ha hc,
    spaceBetween_eq, head?_parts hc]
  rfl

end Parts

/-- A text before a token is spaced once and for all. -/
theorem beforeToken_beforeToken (s : Chars)
    : beforeToken (beforeToken s) = beforeToken s := by
  cases blank : isBlankRun s with
  | true =>
      rw [beforeToken_blank blank]
      exact (narrow_gap _).beforeToken
  | false =>
      obtain ⟨a, c, z, rfl, ha, hc, hz⟩ := exists_core blank
      rw [beforeToken_parts hc hz, beforeToken_parts hc (isBlankRun_gap _), isEmpty_gap, Bool.not_not,
        spaceAt_spaceAt]

theorem afterToken_afterToken (s : Chars)
    : afterToken (afterToken s) = afterToken s := by
  cases blank : isBlankRun s with
  | true =>
      rw [afterToken_blank blank]
      exact (narrow_gap _).afterToken
  | false =>
      obtain ⟨a, c, z, rfl, ha, hc, hz⟩ := exists_core blank
      rw [afterToken_parts ha hc, afterToken_parts (isBlankRun_gap _) hc, isEmpty_gap, Bool.not_not,
        spaceAt_spaceAt]

-----------------------------------------------------------------------------------------
-- Leaves
-----------------------------------------------------------------------------------------

/-- A leaf that spacing leaves as it is. -/
def Fixed (options : SpacingOptions) (n : Node) : Prop :=
  formatNode .standard options n = ⟨n, [], none⟩

/-- A text tidied by the usual rules. -/
def tidyRun (s : Chars) : Chars :=
  tidyText classify (fun l r had => spaceBetween classify [l] [r] had) s

theorem tidyRun_tidyRun (s : Chars)
    : tidyRun (tidyRun s) = tidyRun s :=
  tidyText_tidyText (fun _ _ wanted => wantsSpace_mono wanted) s

theorem formatNode_text (options : SpacingOptions) (s : Chars) (m : Mapping)
    : formatNode .standard options (.text s m)
      = ⟨.text (if options.text then tidyRun s else s) m, [], none⟩ := by
  rw [formatNode]
  split <;> rfl

theorem formatNode_math (options : SpacingOptions) (form : MathForm) (s : Chars) (m : Mapping)
    : formatNode .standard options (.math form s m)
      = ⟨.math form (if options.math then tidyMath s else s) m, [], none⟩ := by
  rw [formatNode]
  split <;> rfl

theorem fixed_text
    : Fixed options (.text s m) ↔ (options.text = true → tidyRun s = s) := by
  rw [Fixed, formatNode_text]
  cases options.text <;> simp

/-- What has become of a leaf stays. -/
theorem fixed_formatNode (options : SpacingOptions) (single : n.isContainer = false)
    : Fixed options (formatNode .standard options n).result := by
  cases n with
  | group | flow => cases single
  | text s m =>
      rw [formatNode_text, fixed_text]
      intro tidied
      rw [if_pos tidied, tidyRun_tidyRun]
  | math form s m =>
      rw [formatNode_math, Fixed, formatNode_math]
      cases options.math with
      | true => simp only [if_true, tidyMath_tidyMath]
      | false => rfl
  | code | note | inert => rfl

theorem fixed_blank (blank : isBlankRun s = true)
    : Fixed options (.text s m) :=
  fixed_text.mpr fun _ => tidyText_blank blank

/-- Tidying does not look at the edges of a text. -/
theorem fixed_parts {a c z : Chars} (ha : isBlankRun a = true) (hc : Core c)
    (hz : isBlankRun z = true)
    : Fixed options (.text (a ++ (c ++ z)) m) ↔ (options.text = true → tidyRun c = c) := by
  rw [fixed_text, tidyRun, tidyText_parts ha hc hz]
  simp [tidyRun]

theorem Fixed.endChange (h : Fixed options n) (change : EndChange n d)
    : Fixed options d := by
  cases change with
  | same => exact h
  | visible ha hc hz hz' => exact (fixed_parts ha hc hz').mpr ((fixed_parts ha hc hz).mp h)
  | blank _ wide => exact fixed_blank (isBlankRun_gap wide)

theorem Fixed.startChange (h : Fixed options n) (change : StartChange n d)
    : Fixed options d := by
  cases change with
  | same => exact h
  | visible ha ha' hc hz => exact (fixed_parts ha' hc hz).mpr ((fixed_parts ha hc hz).mp h)
  | blank _ wide => exact fixed_blank (isBlankRun_gap wide)

-----------------------------------------------------------------------------------------
-- Boundaries
-----------------------------------------------------------------------------------------

/-- The visible character before a blank text: a text of its own is reached with one in sight. -/
def inSight (arrived : Option (Option Char)) (w : Node) : Option Char :=
  if isTextRun w then arrived.join else none

/-- A child that has been reached from a text does not start with a space. -/
def Emptied (arrived : Option (Option Char)) (w : Node) : Prop :=
  ∀ c s m, arrived = some c → w.firstLeaf = .ok (.text s m) → isBlankRun s = true → s = []

/-- `CalmSeam arrived w w' onward`: at the boundary between the children `w` and `w'` spacing has
nothing more to do, if `w` has been reached as `arrived` says; then `w'` is reached as `onward` says.
A child is reached from a text, with the last visible character in sight if there is any, or not. -/
inductive CalmSeam (arrived : Option (Option Char)) (w w' : Node) : Option (Option Char) → Prop
  | visible {l r : Chars} {m m' : Mapping} (hl : w.lastLeaf = .ok (.text l m))
      (hr : w'.firstLeaf = .ok (.text r m')) (vl : isBlankRun l = false) (vr : isBlankRun r = false)
      (ended : trail l = []) (started : lead r = [])
      (tight : spaceAt l.getLast? r.head? false = false) (emptied : Emptied arrived w)
      : CalmSeam arrived w w' (some l.getLast?)
  | beforeBlank {l r : Chars} {m m' : Mapping} (hl : w.lastLeaf = .ok (.text l m))
      (hr : w'.firstLeaf = .ok (.text r m')) (vl : isBlankRun l = false) (narrow : Narrow r)
      (ended : trail l = []) (emptied : Emptied arrived w)
      : CalmSeam arrived w w' (some l.getLast?)
  /-- The space of a blank text on its own was carried here and put down, unless none is wanted. -/
  | afterBlank {l r : Chars} {m m' : Mapping} (hl : w.lastLeaf = .ok (.text l m))
      (hr : w'.firstLeaf = .ok (.text r m')) (narrow : Narrow l) (vr : isBlankRun r = false)
      (started : lead r = [])
      (wanted : l = [' '] → spaceAt (inSight arrived w) r.head? true = true)
      (emptied : w.isLone = true ∨ Emptied arrived w)
      : CalmSeam arrived w w' (some (inSight arrived w))
  | blanks {l r : Chars} {m m' : Mapping} (hl : w.lastLeaf = .ok (.text l m))
      (hr : w'.firstLeaf = .ok (.text r m')) (blank : isBlankRun l = true) (narrow : Narrow r)
      (emptied : Emptied arrived w)
      : CalmSeam arrived w w' (some (inSight arrived w))
  | beforeToken {l : Chars} {m : Mapping} {t : Node} (hl : w.lastLeaf = .ok (.text l m))
      (hr : w'.firstLeaf = .ok t) (token : isToken t = true)
      (spaced : beforeToken l = l) (emptied : Emptied arrived w)
      : CalmSeam arrived w w' none
  | afterToken {r : Chars} {m : Mapping} {t : Node} (hl : w.lastLeaf = .ok t)
      (hr : w'.firstLeaf = .ok (.text r m)) (token : isToken t = true)
      (spaced : afterToken r = r) (emptied : Emptied arrived w)
      : CalmSeam arrived w w' none
  | apart {l r : Node} (hl : w.lastLeaf = .ok l) (hr : w'.firstLeaf = .ok r) (apart : Apart l r)
      (emptied : Emptied arrived w)
      : CalmSeam arrived w w' none

theorem CalmSeam.leaves (h : CalmSeam arrived w w' onward)
    : (∃ l, w.lastLeaf = .ok l) ∧ ∃ r, w'.firstLeaf = .ok r := by
  cases h with
  | visible hl hr | beforeBlank hl hr | afterBlank hl hr | blanks hl hr | beforeToken hl hr
  | afterToken hl hr | apart hl hr => exact ⟨⟨_, hl⟩, _, hr⟩

theorem EndChange.isTextRun (h : EndChange n d)
    : isTextRun d = isTextRun n := by
  cases h <;> rfl

theorem EndChange.isToken (h : EndChange n d)
    : isToken d = isToken n := by
  cases h <;> rfl

theorem StartChange.isTextRun (h : StartChange n d)
    : isTextRun d = isTextRun n := by
  cases h <;> rfl

theorem StartChange.isToken (h : StartChange n d)
    : isToken d = isToken n := by
  cases h <;> rfl

/-- A token does not change. -/
theorem EndChange.token (h : EndChange n d) (token : Spacing.isToken n = true)
    : d = n := by
  cases h with
  | same => rfl
  | visible | blank => cases token

theorem StartChange.token (h : StartChange n d) (token : Spacing.isToken n = true)
    : d = n := by
  cases h with
  | same => rfl
  | visible | blank => cases token

theorem EndChange.of_visible (h : EndChange (.text r m) d) (vr : isBlankRun r = false)
    : ∃ r', d = .text r' m ∧ isBlankRun r' = false ∧ lead r' = lead r ∧ r'.head? = r.head?
        ∧ (Spacing.afterToken r = r → Spacing.afterToken r' = r') := by
  cases h with
  | same => exact ⟨r, rfl, vr, rfl, rfl, id⟩
  | @visible a c z z' _ ha hc hz hz' =>
      refine ⟨_, rfl, isBlankRun_parts a hc z', ?_, ?_, ?_⟩
      · rw [lead_parts ha hc, lead_parts ha hc]
      · cases a with
        | nil => rw [List.nil_append, List.nil_append, head?_parts hc, head?_parts hc]
        | cons => rfl
      · rw [afterToken_parts ha hc, afterToken_parts ha hc]
        intro same
        rw [List.append_cancel_right same]
  | blank br => rw [br] at vr; cases vr

theorem EndChange.of_blank (h : EndChange (.text r m) d) (br : isBlankRun r = true)
    : ∃ r', d = .text r' m ∧ (r' = r ∨ Narrow r') := by
  cases h with
  | same => exact ⟨r, rfl, .inl rfl⟩
  | @visible a c z _ _ ha hc => rw [isBlankRun_parts a hc z] at br; cases br
  | blank _ wide => exact ⟨_, rfl, .inr (narrow_gap wide)⟩

theorem StartChange.of_visible (h : StartChange (.text l m) d) (vl : isBlankRun l = false)
    : ∃ l', d = .text l' m ∧ isBlankRun l' = false ∧ trail l' = trail l
        ∧ l'.getLast? = l.getLast?
        ∧ (Spacing.beforeToken l = l → Spacing.beforeToken l' = l') := by
  cases h with
  | same => exact ⟨l, rfl, vl, rfl, rfl, id⟩
  | @visible a a' c z _ ha ha' hc hz =>
      refine ⟨_, rfl, isBlankRun_parts a' hc z, ?_, ?_, ?_⟩
      · rw [trail_parts _ hc hz, trail_parts _ hc hz]
      · have filled : c ++ z ≠ [] := List.append_ne_nil_of_left_ne_nil hc.ne_nil z
        rw [List.getLast?_append_of_ne_nil _ filled, List.getLast?_append_of_ne_nil _ filled]
      · rw [beforeToken_parts hc hz, beforeToken_parts hc hz]
        intro same
        rw [List.append_cancel_left same]
  | blank bl => rw [bl] at vl; cases vl

theorem StartChange.of_blank (h : StartChange (.text l m) d) (bl : isBlankRun l = true)
    : ∃ l', d = .text l' m ∧ (l' = l ∨ Narrow l') := by
  cases h with
  | same => exact ⟨l, rfl, .inl rfl⟩
  | @visible a _ c z _ ha _ hc => rw [isBlankRun_parts a hc z] at bl; cases bl
  | blank _ wide => exact ⟨_, rfl, .inr (narrow_gap wide)⟩

/-- A boundary stays calm while its right child changes at the end. -/
theorem CalmSeam.endChange (h : CalmSeam arrived w w' onward)
    (change : Found EndChange w'.firstLeaf e.firstLeaf)
    : CalmSeam arrived w e onward := by
  cases h with
  | visible hl hr vl vr ended started tight emptied =>
      obtain ⟨d, hd, change⟩ := change.ok hr
      obtain ⟨r', rfl, vr', sameLead, sameHead, -⟩ := change.of_visible vr
      exact .visible hl hd vl vr' ended (sameLead.trans started) (sameHead ▸ tight) emptied
  | beforeBlank hl hr vl narrow ended emptied =>
      obtain ⟨d, hd, change⟩ := change.ok hr
      obtain ⟨r', rfl, rfl | narrow'⟩ := change.of_blank narrow.isBlankRun
      · exact .beforeBlank hl hd vl narrow ended emptied
      · exact .beforeBlank hl hd vl narrow' ended emptied
  | afterBlank hl hr narrow vr started wanted emptied =>
      obtain ⟨d, hd, change⟩ := change.ok hr
      obtain ⟨r', rfl, vr', sameLead, sameHead, -⟩ := change.of_visible vr
      exact .afterBlank hl hd narrow vr' (sameLead.trans started) (sameHead ▸ wanted) emptied
  | blanks hl hr blank narrow emptied =>
      obtain ⟨d, hd, change⟩ := change.ok hr
      obtain ⟨r', rfl, rfl | narrow'⟩ := change.of_blank narrow.isBlankRun
      · exact .blanks hl hd blank narrow emptied
      · exact .blanks hl hd blank narrow' emptied
  | beforeToken hl hr token spaced emptied =>
      obtain ⟨d, hd, change⟩ := change.ok hr
      obtain rfl := change.token token
      exact .beforeToken hl hd token spaced emptied
  | @afterToken r _ _ hl hr token spaced emptied =>
      obtain ⟨d, hd, change⟩ := change.ok hr
      cases br : isBlankRun r with
      | false =>
          obtain ⟨r', rfl, -, -, -, spaced'⟩ := change.of_visible br
          exact .afterToken hl hd token (spaced' spaced) emptied
      | true =>
          obtain ⟨r', rfl, rfl | narrow⟩ := change.of_blank br
          · exact .afterToken hl hd token spaced emptied
          · exact .afterToken hl hd token narrow.afterToken emptied
  | apart hl hr apart emptied =>
      obtain ⟨d, hd, change⟩ := change.ok hr
      exact .apart hl hd (by rwa [Apart, change.isTextRun, change.isToken]) emptied

theorem emptied_none (w : Node)
    : Emptied none w :=
  nofun

theorem inSight_none (w : Node)
    : inSight none w = none := by
  unfold inSight
  split <;> rfl

/-- A boundary stays calm while its left child changes at the start, if that is the start of the
row. -/
theorem CalmSeam.startChange (h : CalmSeam none w w' onward)
    (change : Found StartChange w.lastLeaf e.lastLeaf)
    : CalmSeam none e w' onward := by
  have unseen : inSight none w = inSight none e := by rw [inSight_none, inSight_none]
  cases h with
  | visible hl hr vl vr ended started tight emptied =>
      obtain ⟨d, hd, change⟩ := change.ok hl
      obtain ⟨l', rfl, vl', sameTrail, sameLast, -⟩ := change.of_visible vl
      rw [← sameLast] at tight ⊢
      exact .visible hd hr vl' vr (sameTrail.trans ended) started tight (emptied_none e)
  | beforeBlank hl hr vl narrow ended emptied =>
      obtain ⟨d, hd, change⟩ := change.ok hl
      obtain ⟨l', rfl, vl', sameTrail, sameLast, -⟩ := change.of_visible vl
      rw [← sameLast]
      exact .beforeBlank hd hr vl' narrow (sameTrail.trans ended) (emptied_none e)
  | afterBlank hl hr narrow vr started wanted emptied =>
      obtain ⟨d, hd, change⟩ := change.ok hl
      rw [unseen]
      -- With nothing in sight there is no one to ask.
      have alone : ∀ right, spaceAt (inSight none e) right true = true := by
        rw [inSight_none]
        exact fun right => spaceAt_none right true
      obtain ⟨l', rfl, rfl | narrow'⟩ := change.of_blank narrow.isBlankRun
      · exact .afterBlank hd hr narrow vr started (fun _ => alone _) (.inr (emptied_none e))
      · exact .afterBlank hd hr narrow' vr started (fun _ => alone _) (.inr (emptied_none e))
  | blanks hl hr blank narrow emptied =>
      obtain ⟨d, hd, change⟩ := change.ok hl
      rw [unseen]
      obtain ⟨l', rfl, rfl | narrow'⟩ := change.of_blank blank
      · exact .blanks hd hr blank narrow (emptied_none e)
      · exact .blanks hd hr narrow'.isBlankRun narrow (emptied_none e)
  | @beforeToken l _ _ hl hr token spaced emptied =>
      obtain ⟨d, hd, change⟩ := change.ok hl
      cases bl : isBlankRun l with
      | false =>
          obtain ⟨l', rfl, -, -, -, spaced'⟩ := change.of_visible bl
          exact .beforeToken hd hr token (spaced' spaced) (emptied_none e)
      | true =>
          obtain ⟨l', rfl, rfl | narrow⟩ := change.of_blank bl
          · exact .beforeToken hd hr token spaced (emptied_none e)
          · exact .beforeToken hd hr token narrow.beforeToken (emptied_none e)
  | afterToken hl hr token spaced emptied =>
      obtain ⟨d, hd, change⟩ := change.ok hl
      obtain rfl := change.token token
      exact .afterToken hd hr token spaced (emptied_none e)
  | apart hl hr apart emptied =>
      obtain ⟨d, hd, change⟩ := change.ok hl
      exact .apart hd hr (by rwa [Apart, change.isTextRun, change.isToken]) (emptied_none e)

-----------------------------------------------------------------------------------------
-- Trees
-----------------------------------------------------------------------------------------

mutual

/-- A tree in which spacing finds nothing to do, but for blank texts that meet. -/
inductive Calm (options : SpacingOptions) : Node → Prop
  | group {form : Group} {cs : List Node} {m : Mapping} (each : CalmEach options cs)
      : Calm options (.group form cs m)
  | flow {form : Flow} {cs : List Node} {m : Mapping} (row : CalmRow options none cs)
      : Calm options (.flow form cs m)
  | leaf {n : Node} (single : n.isContainer = false) (fixed : Fixed options n) : Calm options n

inductive CalmEach (options : SpacingOptions) : List Node → Prop
  | nil : CalmEach options []
  | cons {n : Node} {ns : List Node} (head : Calm options n) (tail : CalmEach options ns)
      : CalmEach options (n :: ns)

/-- A row of children, the first of which has been reached in some way. -/
inductive CalmRow (options : SpacingOptions) : Option (Option Char) → List Node → Prop
  | nil {arrived : Option (Option Char)} : CalmRow options arrived []
  | last {arrived : Option (Option Char)} {w : Node} (calm : Calm options w)
      : CalmRow options arrived [w]
  | cons {arrived onward : Option (Option Char)} {w w' : Node} {ws : List Node}
      (calm : Calm options w) (joint : CalmSeam arrived w w' onward)
      (rest : CalmRow options onward (w' :: ws))
      : CalmRow options arrived (w :: w' :: ws)

end

theorem CalmRow.head {ws : List Node} (h : CalmRow options arrived (w :: ws))
    : Calm options w := by
  cases h with
  | last calm => exact calm
  | cons calm => exact calm

mutual

theorem Calm.changeFirst {options : SpacingOptions} {f : Node → Node} {n l : Node}
    (leafMap : Node.LeafMap f) (found : n.firstLeaf = .ok l) (changed : StartChange l (f l))
    (h : Calm options n)
    : Calm options (n.mapFirstLeaf f) := by
  cases h with
  | group each =>
      cases each with
      | nil => cases found
      | cons head tail => exact .group (.cons (head.changeFirst leafMap found changed) tail)
  | flow row =>
      cases row with
      | nil => cases found
      | last calm => exact .flow (.last (calm.changeFirst leafMap found changed))
      | @cons _ _ w w' ws calm joint rest =>
          have edit : StartEdit w (w.mapFirstLeaf f) := .change leafMap found changed
          exact .flow (.cons (calm.changeFirst leafMap found changed)
            (joint.startChange edit.lastLeaf) rest)
  | leaf single fixed =>
      rw [Node.firstLeaf_of_leaf single, Except.ok.injEq] at found
      subst found
      rw [Node.mapFirstLeaf_of_leaf f single]
      exact .leaf (leafMap n single) (fixed.startChange changed)

end

mutual

theorem Calm.changeLast {options : SpacingOptions} {f : Node → Node} {n l : Node}
    (leafMap : Node.LeafMap f) (found : n.lastLeaf = .ok l) (changed : EndChange l (f l))
    (h : Calm options n)
    : Calm options (n.mapLastLeaf f) := by
  cases h with
  | group each => exact .group (each.changeLast leafMap _ found changed)
  | @flow form cs m row =>
      cases cs with
      | nil => cases found
      | cons c cs =>
          obtain ⟨e, rest, same, row, -⟩ := row.changeLast leafMap _ found changed
          rw [Node.mapLastLeaf, same]
          exact .flow row
  | leaf single fixed =>
      rw [Node.lastLeaf_of_leaf single, Except.ok.injEq] at found
      subst found
      rw [Node.mapLastLeaf_of_leaf f single]
      exact .leaf (leafMap n single) (fixed.endChange changed)
termination_by sizeOf n

theorem CalmEach.changeLast {options : SpacingOptions} {f : Node → Node} {l : Node}
    {ns : List Node} (leafMap : Node.LeafMap f) (parent : Kind)
    (found : Node.lastLeafOf parent ns = .ok l) (changed : EndChange l (f l))
    (h : CalmEach options ns)
    : CalmEach options (Node.mapLastLeafOf f ns) := by
  cases h with
  | nil => exact .nil
  | cons head tail =>
      cases tail with
      | nil => exact .cons (head.changeLast leafMap found changed) .nil
      | cons next rest =>
          exact .cons head (CalmEach.changeLast leafMap parent found changed (.cons next rest))
termination_by sizeOf ns

/-- What ends a row has changed; its first child has changed only if it is the last. -/
theorem CalmRow.changeLast {options : SpacingOptions} {f : Node → Node} {w l : Node}
    {ws : List Node} {arrived : Option (Option Char)} (leafMap : Node.LeafMap f) (parent : Kind)
    (found : Node.lastLeafOf parent (w :: ws) = .ok l) (changed : EndChange l (f l))
    (h : CalmRow options arrived (w :: ws))
    : ∃ e rest,
        Node.mapLastLeafOf f (w :: ws) = e :: rest
        ∧ CalmRow options arrived (e :: rest)
        ∧ EndEdit w e := by
  cases h with
  | last calm =>
      exact ⟨_, [], rfl, .last (calm.changeLast leafMap found changed),
        .change leafMap found changed⟩
  | @cons _ _ _ w' ws calm joint rest =>
      have found : Node.lastLeafOf parent (w' :: ws) = .ok l := found
      obtain ⟨e, after, same, row, edit⟩ := CalmRow.changeLast leafMap parent found changed rest
      refine ⟨w, e :: after, ?_, .cons calm (joint.endChange edit.firstLeaf) row, .none⟩
      rw [Node.mapLastLeafOf, same]
termination_by sizeOf (w :: ws)

end

theorem Calm.startEdit (h : Calm options n) (edit : StartEdit n e)
    : Calm options e := by
  cases edit with
  | none => exact h
  | change leafMap found changed => exact h.changeFirst leafMap found changed

theorem Calm.endEdit (h : Calm options n) (edit : EndEdit n e)
    : Calm options e := by
  cases edit with
  | none => exact h
  | change leafMap found changed => exact h.changeLast leafMap found changed

end MixedScript.Spacing
