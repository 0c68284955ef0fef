import MixedScript.Proofs.Spacing.Joining
import MixedScript.Proofs.Spacing.Visible

/-! Changes at the edges of a tree. A boundary gives the text on its left other blanks at its end and
the text on its right other blanks at its start. A text that holds something visible keeps all the
rest, the blanks at its other edge included, so its other boundary sees it as it was. -/

namespace MixedScript.Spacing

variable {carry : Carry} {b : Resolved} {l r s t : Chars} {m m' : Mapping}
  {n d e left right : Node}

-----------------------------------------------------------------------------------------
-- Texts by what is visible in them
-----------------------------------------------------------------------------------------

theorem visible_parts {a c z : Chars} (ha : isBlankRun a = true) (hz : isBlankRun z = true)
    : visible (a ++ (c ++ z)) = visible c := by
  simp only [visible_append, visible_eq_nil.mpr ha, visible_eq_nil.mpr hz, List.nil_append,
    List.append_nil]

theorem isBlankRun_eq_visible (s : Chars)
    : isBlankRun s = (visible s).isEmpty := by
  rw [Bool.eq_iff_iff, List.isEmpty_iff, visible_eq_nil]

theorem isBlankRun_congr (same : visible t = visible s)
    : isBlankRun t = isBlankRun s := by
  rw [isBlankRun_eq_visible, isBlankRun_eq_visible, same]

/-- A run that is trimmed at its end ends in its last visible character. -/
theorem getLast?_trimRight (s : Chars)
    : (trimRight s).getLast? = (visible s).getLast? := by
  cases blank : isBlankRun s with
  | true => rw [trimRight_eq_nil.mpr blank, visible_eq_nil.mpr blank]
  | false =>
      obtain ⟨a, c, z, rfl, ha, hc, hz⟩ := exists_core blank
      rw [trimRight_parts a hc hz, visible_parts ha hz]
      obtain ⟨before, last, rfl, hlast⟩ := hc.ends
      simp [visible, hlast]

/-- A run that is trimmed at its start starts with its first visible character. -/
theorem head?_trimLeft (s : Chars)
    : (trimLeft s).head? = (visible s).head? := by
  cases blank : isBlankRun s with
  | true => rw [trimLeft_eq_nil.mpr blank, visible_eq_nil.mpr blank]
  | false =>
      obtain ⟨a, c, z, rfl, ha, hc, hz⟩ := exists_core blank
      rw [trimLeft_parts ha hc, visible_parts ha hz]
      obtain ⟨first, rest, rfl, hfirst⟩ := hc.starts
      simp [visible, hfirst]

/-- The table sees the last character on the left and the first one on the right. -/
theorem spaceBetween_congr {classOf : Char → CharClass} {l' r' : Chars} {had : Bool}
    (left : l'.getLast? = l.getLast?) (right : r'.head? = r.head?)
    : spaceBetween classOf l' r' had = spaceBetween classOf l r had := by
  rw [spaceBetween, spaceBetween, lastChar?, lastChar?, left, right]

-----------------------------------------------------------------------------------------
-- Leaves
-----------------------------------------------------------------------------------------

/-- What may become of the leaf on the left of a boundary: a text gets other blanks at its end, and
one that is blank becomes a space or nothing. -/
inductive EndChange : Node → Node → Prop
  | same {n : Node} : EndChange n n
  | visible {a c z z' : Chars} {m : Mapping} (ha : isBlankRun a = true) (hc : Core c)
      (hz : isBlankRun z = true) (hz' : isBlankRun z' = true)
      : EndChange (.text (a ++ (c ++ z)) m) (.text (a ++ (c ++ z')) m)
  | blank {s : Chars} {m : Mapping} (hs : isBlankRun s = true) (wide : Bool)
      : EndChange (.text s m) (.text (gap wide) m)

/-- What may become of the leaf on the right of a boundary: a text gets other blanks at its start, and
one that is blank becomes a space or nothing. -/
inductive StartChange : Node → Node → Prop
  | same {n : Node} : StartChange n n
  | visible {a a' c z : Chars} {m : Mapping} (ha : isBlankRun a = true)
      (ha' : isBlankRun a' = true) (hc : Core c) (hz : isBlankRun z = true)
      : StartChange (.text (a ++ (c ++ z)) m) (.text (a' ++ (c ++ z)) m)
  | blank {s : Chars} {m : Mapping} (hs : isBlankRun s = true) (wide : Bool)
      : StartChange (.text s m) (.text (gap wide) m)

theorem EndChange.trimmed (visible : isBlankRun l = false)
    : EndChange (.text l m) (.text (trimRight l) m) := by
  obtain ⟨a, c, z, rfl, ha, hc, hz⟩ := exists_core visible
  have change := @EndChange.visible a c z [] m ha hc hz rfl
  rw [List.append_nil] at change
  rwa [trimRight_parts a hc hz]

theorem StartChange.trimmed (visible : isBlankRun r = false)
    : StartChange (.text r m) (.text (trimLeft r) m) := by
  obtain ⟨a, c, z, rfl, ha, hc, hz⟩ := exists_core visible
  rw [trimLeft_parts ha hc]
  exact @StartChange.visible a [] c z m ha rfl hc hz

theorem EndChange.emptied (blank : isBlankRun l = true)
    : EndChange (.text l m) (.text [] m) :=
  .blank blank false

theorem StartChange.emptied (blank : isBlankRun r = true)
    : StartChange (.text r m) (.text [] m) :=
  .blank blank false

theorem EndChange.beforeToken (l : Chars) (m : Mapping)
    : EndChange (.text l m) (.text (Spacing.beforeToken l) m) := by
  cases blank : isBlankRun l with
  | true =>
      rw [beforeToken_blank blank]
      exact .blank blank _
  | false =>
      rw [beforeToken_visible blank]
      obtain ⟨a, c, z, rfl, ha, hc, hz⟩ := exists_core blank
      rw [trimRight_parts a hc hz, List.append_assoc]
      exact .visible ha hc hz (isBlankRun_gap _)

theorem StartChange.afterToken (r : Chars) (m : Mapping)
    : StartChange (.text r m) (.text (Spacing.afterToken r) m) := by
  cases blank : isBlankRun r with
  | true =>
      rw [afterToken_blank blank]
      exact .blank blank _
  | false =>
      rw [afterToken_visible blank]
      obtain ⟨a, c, z, rfl, ha, hc, hz⟩ := exists_core blank
      rw [trimLeft_parts ha hc]
      exact .visible ha (isBlankRun_gap _) hc hz

/-- An empty text that becomes a space has changed at either edge. -/
theorem changes_repayLeaf (n : Node)
    : EndChange n (repayLeaf n) ∧ StartChange n (repayLeaf n) := by
  unfold repayLeaf
  split
  · exact ⟨.blank rfl true, .blank rfl true⟩
  · exact ⟨.same, .same⟩

-----------------------------------------------------------------------------------------
-- Trees
-----------------------------------------------------------------------------------------

/-- A tree whose last leaf may have changed at its end. -/
inductive EndEdit (d : Node) : Node → Prop
  | none : EndEdit d d
  | change {f : Node → Node} {l : Node} (leafMap : Node.LeafMap f) (found : d.lastLeaf = .ok l)
      (changed : EndChange l (f l))
      : EndEdit d (d.mapLastLeaf f)

/-- A tree whose first leaf may have changed at its start. -/
inductive StartEdit (d : Node) : Node → Prop
  | none : StartEdit d d
  | change {f : Node → Node} {l : Node} (leafMap : Node.LeafMap f) (found : d.firstLeaf = .ok l)
      (changed : StartChange l (f l))
      : StartEdit d (d.mapFirstLeaf f)

theorem EndEdit.withText (found : d.lastLeaf = .ok (.text s m))
    (changed : EndChange (.text s m) (.text t m))
    : EndEdit d (d.mapLastLeaf (Node.withText t)) :=
  .change (Node.textChange_withText t).leafMap found changed

theorem StartEdit.withText (found : d.firstLeaf = .ok (.text s m))
    (changed : StartChange (.text s m) (.text t m))
    : StartEdit d (d.mapFirstLeaf (Node.withText t)) :=
  .change (Node.textChange_withText t).leafMap found changed

/-- A change at the end of a tree is one at the end of its first leaf, too, if at all. -/
theorem EndEdit.firstLeaf (h : EndEdit d e)
    : Found EndChange d.firstLeaf e.firstLeaf := by
  cases h with
  | none => exact .refl (fun _ => .same) _
  | change leafMap found changed =>
      rcases Node.firstLeaf_mapLastLeaf leafMap d found with same | ⟨same, now⟩
      · rw [same]
        exact .refl (fun _ => .same) _
      · rw [same, now]
        exact .leaf changed

/-- A change at the start of a tree is one at the start of its last leaf, too, if at all. -/
theorem StartEdit.lastLeaf (h : StartEdit d e)
    : Found StartChange d.lastLeaf e.lastLeaf := by
  cases h with
  | none => exact .refl (fun _ => .same) _
  | change leafMap found changed =>
      rcases Node.lastLeaf_mapFirstLeaf leafMap d found with same | ⟨same, now⟩
      · rw [same]
        exact .refl (fun _ => .same) _
      · rw [same, now]
        exact .leaf changed

theorem StartEdit.firstLeaf (h : StartEdit d e) (found : d.firstLeaf = .ok n)
    : ∃ l, e.firstLeaf = .ok l := by
  cases h with
  | none => exact ⟨n, found⟩
  | change leafMap found' =>
      obtain ⟨_, -, -, now⟩ := Node.firstLeaf_change leafMap d found'
      exact ⟨_, now⟩

/-- Repaid whitespace changes a tree at the start of its first leaf. -/
theorem startEdit_repay (owed : Bool) (d : Node)
    : StartEdit d (repay owed d) := by
  unfold repay
  split
  · cases found : d.firstLeaf with
    | error =>
        rw [Node.mapFirstLeaf_of_error repayLeaf d found]
        exact .none
    | ok l => exact .change textChange_repayLeaf.leafMap found (changes_repayLeaf l).2
  · exact .none

/-- Only an empty text is repaid, so this may as well be seen as a change at its end. -/
theorem firstLeaf_repay (owed : Bool) (d : Node)
    : Found EndChange d.firstLeaf (repay owed d).firstLeaf := by
  unfold repay
  split
  · cases found : d.firstLeaf with
    | error =>
        rw [Node.mapFirstLeaf_of_error repayLeaf d found, found]
        exact .deadEnd
    | ok l =>
        obtain ⟨_, -, -, first⟩ := Node.firstLeaf_change textChange_repayLeaf.leafMap d found
        rw [first]
        exact .leaf (changes_repayLeaf l).1
  · exact .refl (fun _ => .same) _

/-- A boundary changes its children at its own side alone. -/
theorem resolve_edits (h : resolve .standard carry left right = .ok b)
    : EndEdit left b.left ∧ StartEdit right b.right := by
  cases resolves_of_ok h with
  | @texts l r m m' _ _ hl hr =>
      cases bl : isBlankRun l with
      | false =>
          cases br : isBlankRun r with
          | false =>
              rw [resolve_visible hl hr bl br] at h
              rw [← Except.ok.inj h]
              exact ⟨.withText hl (.trimmed bl), .withText hr (.trimmed br)⟩
          | true =>
              rw [resolve_before_blank hl hr bl br] at h
              rw [← Except.ok.inj h]
              exact ⟨.withText hl (.trimmed bl), .withText hr (.emptied br)⟩
      | true =>
          cases br : isBlankRun r with
          | false =>
              rw [resolve_after_blank hl hr bl br] at h
              rw [← Except.ok.inj h]
              exact ⟨.withText hl (.blank bl _), .withText hr (.trimmed br)⟩
          | true =>
              rw [resolve_blank hl hr bl br] at h
              rw [← Except.ok.inj h]
              exact ⟨.withText hl (.emptied bl), .withText hr (.emptied br)⟩
  | beforeToken hl hr token =>
      rw [resolve_text_token hl hr token] at h
      rw [← Except.ok.inj h]
      exact ⟨.withText hl (.beforeToken _ _), .none⟩
  | afterToken hl hr token =>
      rw [resolve_token_text hl hr token] at h
      rw [← Except.ok.inj h]
      exact ⟨.none, .withText hr (.afterToken _ _)⟩
  | apart hl hr apart => exact ⟨.none, .none⟩

end MixedScript.Spacing
