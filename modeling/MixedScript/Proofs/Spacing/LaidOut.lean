import MixedScript.Proofs.Spacing.Calm
import MixedScript.Proofs.Spacing.Exact

/-! What becomes of every text that holds something visible. Its inside is tidied, and its edges
depend on no more than what stands beyond each of them: next to another text it is trimmed, next to
a token the table decides, and elsewhere its blanks stay. What stands beyond an edge can be read off
the source, wherever in the tree the children of flows that meet there have their leaves. -/

namespace MixedScript.Spacing

variable {options : SpacingOptions} {s t : Chars} {m : Mapping} {n d e : Node}

-----------------------------------------------------------------------------------------
-- Texts
-----------------------------------------------------------------------------------------

/-- What stands beyond an edge of a tree, as the boundary there sees it. -/
inductive Beyond where
  /-- Nothing, or a leaf that takes no part in spacing. -/
  | nothing
  | text
  | token
  deriving DecidableEq, Repr

/-- What a leaf is to the boundary that it touches. -/
def beyond : Except DeadEnd Node → Beyond
  | .ok n => if isTextRun n then .text else if isToken n then .token else .nothing
  | .error _ => .nothing

/-- The blanks at the start of a visible text after spacing. -/
def startBlanks (s : Chars) : Beyond → Chars
  | .nothing => lead s
  | .text => []
  | .token => gap (spaceBetween classify sentinel (trimLeft s) (startsBlank s))

/-- The blanks at the end of a visible text after spacing. -/
def endBlanks (s : Chars) : Beyond → Chars
  | .nothing => trail s
  | .text => []
  | .token => gap (spaceBetween classify (trimRight s) sentinel (endsBlank s))

/-- The visible text `t` is what the text `s` becomes between what stands beyond its edges. -/
structure LaidOutText (options : SpacingOptions) (before after : Beyond) (s t : Chars) : Prop where
  starts : lead t = startBlanks s before
  inside : visiblePart t = if options.text then tidyRun (visiblePart s) else visiblePart s
  ends : trail t = endBlanks s after

variable {before after : Beyond}

theorem LaidOutText.visible (h : LaidOutText options before after s t)
    : visible t = visible s := by
  rw [← visible_visiblePart t, h.inside]
  split
  · exact (visible_tidyText _).trans (visible_visiblePart s)
  · exact visible_visiblePart s

/-- The blanks that are decided on at the start of a text depend on those in the source alone. -/
theorem startBlanks_congr (filled : isBlankRun s = false)
    (same : Spacing.visible t = Spacing.visible s) (starts : lead t = lead s)
    : startBlanks t before = startBlanks s before := by
  cases before with
  | nothing => exact starts
  | text => rfl
  | token =>
      have start : SameStart t s := ⟨same, fun _ => starts⟩
      rw [startBlanks, startBlanks, spaceBetween_congr rfl start.head?, start.startsBlank filled]

theorem endBlanks_congr (filled : isBlankRun s = false)
    (same : Spacing.visible t = Spacing.visible s) (ends : trail t = trail s)
    : endBlanks t after = endBlanks s after := by
  cases after with
  | nothing => exact ends
  | text => rfl
  | token =>
      have finish : SameEnd t s := ⟨same, fun _ => ends⟩
      rw [endBlanks, endBlanks, spaceBetween_congr finish.getLast? rfl, finish.endsBlank filled]

/-- Tidying leaves the edges of a text. -/
theorem laidOutText_tidied (options : SpacingOptions) (filled : isBlankRun s = false)
    : LaidOutText options .nothing .nothing s (if options.text then tidyRun s else s) := by
  obtain ⟨a, c, z, rfl, ha, hc, hz⟩ := exists_core filled
  cases tidied : options.text with
  | false => exact ⟨rfl, by rw [tidied]; rfl, rfl⟩
  | true =>
      refine ⟨lead_tidyText, ?_, trail_tidyText⟩
      have core : visiblePart (a ++ (c ++ z)) = c := visiblePart_parts ha hc hz
      have now : visiblePart (a ++ (tidyRun c ++ z)) = tidyRun c :=
        visiblePart_parts ha hc.tidyText hz
      rw [if_pos rfl, if_pos tidied, core, tidyRun, tidyText_parts ha hc hz]
      exact now

-----------------------------------------------------------------------------------------
-- Leaves
-----------------------------------------------------------------------------------------

/-- The leaf `d` is what the leaf `n` becomes between what stands beyond its edges. A blank text
stays a blank one. -/
inductive LaidOutLeaf (options : SpacingOptions) (before after : Beyond) : Node → Node → Prop
  | visible {s t : Chars} {m : Mapping} (filled : isBlankRun s = false)
      (laid : LaidOutText options before after s t)
      : LaidOutLeaf options before after (.text s m) (.text t m)
  | blank {s t : Chars} {m : Mapping} (blank : isBlankRun s = true) (still : isBlankRun t = true)
      : LaidOutLeaf options before after (.text s m) (.text t m)
  | other {n d : Node} (noText : isTextRun n = false) (same : SameVisible n d)
      : LaidOutLeaf options before after n d

/-- What a boundary makes of the leaf on its right, given what stands on its left. -/
inductive StartLaid (before : Beyond) : Node → Node → Prop
  | visible {r r' : Chars} {m : Mapping} (filled : isBlankRun r = false)
      (starts : lead r' = startBlanks r before) (inside : visiblePart r' = visiblePart r)
      (ends : trail r' = trail r)
      : StartLaid before (.text r m) (.text r' m)
  | blank {r r' : Chars} {m : Mapping} (blank : isBlankRun r = true) (still : isBlankRun r' = true)
      : StartLaid before (.text r m) (.text r' m)
  | other {n : Node} (noText : isTextRun n = false) : StartLaid before n n

/-- What a boundary makes of the leaf on its left, given what stands on its right. -/
inductive EndLaid (after : Beyond) : Node → Node → Prop
  | visible {l l' : Chars} {m : Mapping} (filled : isBlankRun l = false) (starts : lead l' = lead l)
      (inside : visiblePart l' = visiblePart l) (ends : trail l' = endBlanks l after)
      : EndLaid after (.text l m) (.text l' m)
  | blank {l l' : Chars} {m : Mapping} (blank : isBlankRun l = true) (still : isBlankRun l' = true)
      : EndLaid after (.text l m) (.text l' m)
  | other {n : Node} (noText : isTextRun n = false) : EndLaid after n n

theorem LaidOutLeaf.start (h : LaidOutLeaf options .nothing after n d) (step : StartLaid before d e)
    : LaidOutLeaf options before after n e := by
  cases h with
  | visible filled laid =>
      cases step with
      | visible filled' starts inside ends =>
          refine .visible filled ⟨starts.trans ?_, inside.trans laid.inside, ends.trans laid.ends⟩
          exact startBlanks_congr filled laid.visible laid.starts
      | blank blank =>
          rw [isBlankRun_congr laid.visible, filled] at blank
          cases blank
      | other noText => cases noText
  | blank blank still =>
      cases step with
      | visible filled => rw [still] at filled; cases filled
      | blank _ still' => exact .blank blank still'
      | other noText => cases noText
  | other noText same =>
      have stillNone := same.isTextRun.trans noText
      cases step with
      | visible | blank => cases stillNone
      | other => exact .other noText same

theorem LaidOutLeaf.finish (h : LaidOutLeaf options before .nothing n d) (step : EndLaid after d e)
    : LaidOutLeaf options before after n e := by
  cases h with
  | visible filled laid =>
      cases step with
      | visible filled' starts inside ends =>
          refine .visible filled ⟨starts.trans laid.starts, inside.trans laid.inside, ends.trans ?_⟩
          exact endBlanks_congr filled laid.visible laid.ends
      | blank blank =>
          rw [isBlankRun_congr laid.visible, filled] at blank
          cases blank
      | other noText => cases noText
  | blank blank still =>
      cases step with
      | visible filled => rw [still] at filled; cases filled
      | blank _ still' => exact .blank blank still'
      | other noText => cases noText
  | other noText same =>
      have stillNone := same.isTextRun.trans noText
      cases step with
      | visible | blank => cases stillNone
      | other => exact .other noText same

/-- Only a blank text is repaid. -/
theorem LaidOutLeaf.repaid (h : LaidOutLeaf options before after n d)
    : LaidOutLeaf options before after n (repayLeaf d) := by
  unfold repayLeaf
  split
  · cases h with
    | visible filled laid =>
        rw [isBlankRun_eq_visible, ← laid.visible] at filled
        cases filled
    | blank blank => exact .blank blank rfl
    | other noText same =>
        rw [← same.isTextRun] at noText
        cases noText
  · exact h

-----------------------------------------------------------------------------------------
-- Trees
-----------------------------------------------------------------------------------------

mutual

/-- `LaidOut options before after n d`: the tree `d` is what the tree `n` becomes between what
stands beyond its edges. -/
inductive LaidOut (options : SpacingOptions) : Beyond → Beyond → Node → Node → Prop
  | group {before after : Beyond} {form : Group} {cs ds : List Node} {m : Mapping}
      (each : LaidOutEach options before after cs ds)
      : LaidOut options before after (.group form cs m) (.group form ds m)
  | flow {before after : Beyond} {form : Flow} {cs : List Node} {nodes : Row} {m : Mapping}
      (row : LaidOutRow options before after cs nodes)
      : LaidOut options before after (.flow form cs m) (.flow form (weave nodes) m)
  | leaf {before after : Beyond} {n d : Node} (single : n.isContainer = false)
      (still : d.isContainer = false)
      (laid : LaidOutLeaf options before after n d)
      : LaidOut options before after n d

/-- Children of a group, between which there are no boundaries. -/
inductive LaidOutEach (options : SpacingOptions) : Beyond → Beyond → List Node → List Node → Prop
  | nil {before after : Beyond} : LaidOutEach options before after [] []
  | last {before after : Beyond} {n d : Node} (head : LaidOut options before after n d)
      : LaidOutEach options before after [n] [d]
  | cons {before after : Beyond} {n d next : Node} {ns ds : List Node}
      (head : LaidOut options before .nothing n d)
      (tail : LaidOutEach options .nothing after (next :: ns) ds)
      : LaidOutEach options before after (n :: next :: ns) (d :: ds)

/-- Children of a flow, each of which stands beyond the edges of its neighbours. -/
inductive LaidOutRow (options : SpacingOptions) : Beyond → Beyond → List Node → Row → Prop
  | nil {before after : Beyond} : LaidOutRow options before after [] []
  | last {before after : Beyond} {n d : Node} (head : LaidOut options before after n d)
      : LaidOutRow options before after [n] [(d, false)]
  | cons {before after : Beyond} {n d next : Node} {space : Bool} {ns : List Node} {nodes : Row}
      (head : LaidOut options before (beyond next.firstLeaf) n d)
      (tail : LaidOutRow options (beyond n.lastLeaf) after (next :: ns) nodes)
      : LaidOutRow options before after (n :: next :: ns) ((d, space) :: nodes)

end

variable {f : Node → Node} {l : Node}

mutual

/-- A change of the first leaf lays out a tree behind something else if it does so for the leaf. -/
theorem LaidOut.changeFirst {before before' after : Beyond} {n d : Node}
    (leafMap : Node.LeafMap f)
    (step : ∀ {n after}, LaidOutLeaf options before after n l
      → LaidOutLeaf options before' after n (f l))
    (found : d.firstLeaf = .ok l) (h : LaidOut options before after n d)
    : LaidOut options before' after n (d.mapFirstLeaf f) := by
  cases h with
  | group each => exact .group (each.changeFirst leafMap step _ found)
  | flow row =>
      obtain ⟨changed, woven, row⟩ := row.changeFirst leafMap step _ found
      rw [Node.mapFirstLeaf, woven]
      exact .flow row
  | leaf single still laid =>
      rw [Node.firstLeaf_of_leaf still, Except.ok.injEq] at found
      subst found
      rw [Node.mapFirstLeaf_of_leaf f still]
      exact .leaf single (leafMap d still) (step laid)
termination_by sizeOf n

theorem LaidOutEach.changeFirst {before before' after : Beyond} {cs ds : List Node}
    (leafMap : Node.LeafMap f)
    (step : ∀ {n after}, LaidOutLeaf options before after n l
      → LaidOutLeaf options before' after n (f l))
    (parent : Kind) (found : Node.firstLeafOf parent ds = .ok l)
    (h : LaidOutEach options before after cs ds)
    : LaidOutEach options before' after cs (Node.mapFirstLeafOf f ds) := by
  cases h with
  | nil => cases found
  | last head => exact .last (head.changeFirst leafMap step found)
  | cons head tail => exact .cons (head.changeFirst leafMap step found) tail
termination_by sizeOf cs

theorem LaidOutRow.changeFirst {before before' after : Beyond} {cs : List Node} {nodes : Row}
    (leafMap : Node.LeafMap f)
    (step : ∀ {n after}, LaidOutLeaf options before after n l
      → LaidOutLeaf options before' after n (f l))
    (parent : Kind) (found : Node.firstLeafOf parent (weave nodes) = .ok l)
    (h : LaidOutRow options before after cs nodes)
    : ∃ changed,
        Node.mapFirstLeafOf f (weave nodes) = weave changed
        ∧ LaidOutRow options before' after cs changed := by
  cases h with
  | nil => cases found
  | @last _ _ _ d head =>
      exact ⟨[(d.mapFirstLeaf f, false)], rfl, .last (head.changeFirst leafMap step found)⟩
  | @cons _ _ _ d _ space _ nodes head tail =>
      rw [weave_cons] at found
      refine ⟨(d.mapFirstLeaf f, space) :: nodes, ?_, .cons ?_ tail⟩
      · rw [weave_cons, weave_cons, Node.mapFirstLeafOf]
      · exact head.changeFirst leafMap step found
termination_by sizeOf cs

end

mutual

/-- A change of the last leaf lays out a tree before something else if it does so for the leaf. -/
theorem LaidOut.changeLast {before after after' : Beyond} {n d : Node}
    (leafMap : Node.LeafMap f)
    (step : ∀ {n before}, LaidOutLeaf options before after n l
      → LaidOutLeaf options before after' n (f l))
    (found : d.lastLeaf = .ok l) (h : LaidOut options before after n d)
    : LaidOut options before after' n (d.mapLastLeaf f) := by
  cases h with
  | group each => exact .group (each.changeLast leafMap step _ found)
  | flow row =>
      obtain ⟨changed, woven, row⟩ := row.changeLast leafMap step _ found
      rw [Node.mapLastLeaf, woven]
      exact .flow row
  | leaf single still laid =>
      rw [Node.lastLeaf_of_leaf still, Except.ok.injEq] at found
      subst found
      rw [Node.mapLastLeaf_of_leaf f still]
      exact .leaf single (leafMap d still) (step laid)
termination_by sizeOf n

theorem LaidOutEach.changeLast {before after after' : Beyond} {cs ds : List Node}
    (leafMap : Node.LeafMap f)
    (step : ∀ {n before}, LaidOutLeaf options before after n l
      → LaidOutLeaf options before after' n (f l))
    (parent : Kind) (found : Node.lastLeafOf parent ds = .ok l)
    (h : LaidOutEach options before after cs ds)
    : LaidOutEach options before after' cs (Node.mapLastLeafOf f ds) := by
  cases h with
  | nil => cases found
  | last head => exact .last (head.changeLast leafMap step found)
  | @cons _ _ _ _ _ _ ds head tail =>
      cases ds with
      | nil => cases tail
      | cons => exact .cons head (tail.changeLast leafMap step parent found)
termination_by sizeOf cs

theorem LaidOutRow.changeLast {before after after' : Beyond} {cs : List Node} {nodes : Row}
    (leafMap : Node.LeafMap f)
    (step : ∀ {n before}, LaidOutLeaf options before after n l
      → LaidOutLeaf options before after' n (f l))
    (parent : Kind) (found : Node.lastLeafOf parent (weave nodes) = .ok l)
    (h : LaidOutRow options before after cs nodes)
    : ∃ changed,
        Node.mapLastLeafOf f (weave nodes) = weave changed
        ∧ LaidOutRow options before after' cs changed := by
  cases h with
  | nil => cases found
  | @last _ _ _ d head =>
      exact ⟨[(d.mapLastLeaf f, false)], rfl, .last (head.changeLast leafMap step found)⟩
  | @cons _ _ _ d _ space _ nodes head tail =>
      cases nodes with
      | nil => cases tail
      | cons node nodes =>
          rw [lastLeafOf_weave_cons] at found
          obtain ⟨changed, woven, row⟩ := tail.changeLast leafMap step parent found
          exact ⟨(d, space) :: changed, mapLastLeafOf_weave_cons f d space node woven,
            .cons head row⟩
termination_by sizeOf cs

end

theorem LaidOut.repay (owed : Bool) (h : LaidOut options before after n d)
    : LaidOut options before after n (repay owed d) := by
  unfold Spacing.repay
  split
  · cases found : d.firstLeaf with
    | error => rwa [Node.mapFirstLeaf_of_error repayLeaf d found]
    | ok l => exact h.changeFirst textChange_repayLeaf.leafMap LaidOutLeaf.repaid found
  · exact h

-----------------------------------------------------------------------------------------
-- Boundaries
-----------------------------------------------------------------------------------------

variable {left right : Node} {carry : Carry} {b : Resolved} {r : Chars} {g : Chars}

/-- A text that is trimmed at its end and then followed by the blanks that are decided on there. -/
theorem EndLaid.trimmed (filled : isBlankRun s = false) (blank : isBlankRun g = true)
    (decided : g = endBlanks s after)
    : EndLaid after (.text s m) (.text (trimRight s ++ g) m) := by
  obtain ⟨ends, starts⟩ := edges_trimRight_append filled blank
  refine .visible filled starts ?_ (ends.trans decided)
  obtain ⟨a, c, z, rfl, ha, hc, hz⟩ := exists_core filled
  rw [trimRight_parts a hc hz, List.append_assoc, visiblePart, visiblePart_parts ha hc blank,
    visiblePart, visiblePart_parts ha hc hz]

/-- A text that is trimmed at its start and then follows the blanks that are decided on there. -/
theorem StartLaid.trimmed (filled : isBlankRun s = false) (blank : isBlankRun g = true)
    (decided : g = startBlanks s before)
    : StartLaid before (.text s m) (.text (g ++ trimLeft s) m) := by
  obtain ⟨starts, ends⟩ := edges_append_trimLeft filled blank
  refine .visible filled (starts.trans decided) ?_ ends
  obtain ⟨a, c, z, rfl, ha, hc, hz⟩ := exists_core filled
  rw [trimLeft_parts ha hc, visiblePart, visiblePart_parts blank hc hz, visiblePart,
    visiblePart_parts ha hc hz]

theorem EndLaid.beforeText (filled : isBlankRun s = false)
    : EndLaid .text (.text s m) (.text (trimRight s) m) := by
  have laid := @EndLaid.trimmed s m .text [] filled rfl rfl
  rwa [List.append_nil] at laid

theorem StartLaid.afterText (filled : isBlankRun s = false)
    : StartLaid .text (.text s m) (.text (trimLeft s) m) :=
  @StartLaid.trimmed s m .text [] filled rfl rfl

theorem EndLaid.beforeToken (s : Chars) (m : Mapping)
    : EndLaid .token (.text s m) (.text (Spacing.beforeToken s) m) := by
  cases blank : isBlankRun s with
  | true =>
      rw [beforeToken_blank blank]
      exact .blank blank (isBlankRun_gap _)
  | false =>
      rw [beforeToken_visible blank]
      exact .trimmed blank (isBlankRun_gap _) rfl

theorem StartLaid.afterToken (s : Chars) (m : Mapping)
    : StartLaid .token (.text s m) (.text (Spacing.afterToken s) m) := by
  cases blank : isBlankRun s with
  | true =>
      rw [afterToken_blank blank]
      exact .blank blank (isBlankRun_gap _)
  | false =>
      rw [afterToken_visible blank]
      exact .trimmed blank (isBlankRun_gap _) rfl

/-- A leaf stays as it is where it is no text, or where nothing beyond its edge matters to it. -/
theorem EndLaid.refl (apart : isTextRun n = true → after = .nothing)
    : EndLaid after n n := by
  cases text : isTextRun n with
  | false => exact .other text
  | true =>
      obtain rfl := apart text
      cases n <;> simp only [isTextRun, Bool.false_eq_true] at text
      next s m =>
        cases blank : isBlankRun s with
        | true => exact .blank blank blank
        | false => exact .visible blank rfl rfl rfl

theorem StartLaid.refl (apart : isTextRun n = true → before = .nothing)
    : StartLaid before n n := by
  cases text : isTextRun n with
  | false => exact .other text
  | true =>
      obtain rfl := apart text
      cases n <;> simp only [isTextRun, Bool.false_eq_true] at text
      next s m =>
        cases blank : isBlankRun s with
        | true => exact .blank blank blank
        | false => exact .visible blank rfl rfl rfl

/-- A tree whose last leaf has been laid out before what follows. -/
inductive EndMade (after : Beyond) (d : Node) : Node → Prop
  | change {f : Node → Node} {l : Node} (leafMap : Node.LeafMap f) (found : d.lastLeaf = .ok l)
      (laid : EndLaid after l (f l))
      : EndMade after d (d.mapLastLeaf f)

/-- A tree whose first leaf has been laid out behind what precedes. -/
inductive StartMade (before : Beyond) (d : Node) : Node → Prop
  | change {f : Node → Node} {l : Node} (leafMap : Node.LeafMap f) (found : d.firstLeaf = .ok l)
      (laid : StartLaid before l (f l))
      : StartMade before d (d.mapFirstLeaf f)

theorem EndMade.text (found : d.lastLeaf = .ok (.text s m))
    (laid : EndLaid after (.text s m) (.text t m))
    : EndMade after d (d.mapLastLeaf (Node.withText t)) :=
  .change (Node.textChange_withText t).leafMap found laid

theorem StartMade.text (found : d.firstLeaf = .ok (.text s m))
    (laid : StartLaid before (.text s m) (.text t m))
    : StartMade before d (d.mapFirstLeaf (Node.withText t)) :=
  .change (Node.textChange_withText t).leafMap found laid

theorem EndMade.refl (found : d.lastLeaf = .ok l) (apart : isTextRun l = true → after = .nothing)
    : EndMade after d d := by
  have made := @EndMade.change after d id l (fun _ leaf => leaf) found (.refl apart)
  rwa [Node.mapLastLeaf_eq_self d found rfl] at made

theorem StartMade.refl (found : d.firstLeaf = .ok l)
    (apart : isTextRun l = true → before = .nothing)
    : StartMade before d d := by
  have made := @StartMade.change before d id l (fun _ leaf => leaf) found (.refl apart)
  rwa [Node.mapFirstLeaf_eq_self d found rfl] at made

theorem LaidOut.endMade (h : LaidOut options before .nothing n d) (made : EndMade after d e)
    : LaidOut options before after n e := by
  cases made with
  | change leafMap found laid => exact h.changeLast leafMap (·.finish laid) found

theorem LaidOut.startMade (h : LaidOut options .nothing after n d) (made : StartMade before d e)
    : LaidOut options before after n e := by
  cases made with
  | change leafMap found laid => exact h.changeFirst leafMap (·.start laid) found

theorem noText_of_isToken (token : isToken n = true)
    : isTextRun n = false := by
  cases n <;> first | rfl | cases token

theorem beyond_token {x : Except DeadEnd Node} (found : x = .ok n) (token : isToken n = true)
    : beyond x = .token := by
  rw [found, beyond, noText_of_isToken token, token]
  rfl

/-- Between leaves that have nothing to resolve, there is nothing beyond a text. -/
theorem beyond_apart {x y : Node} (apart : Apart x y)
    : (isTextRun x = true → beyond (.ok y) = .nothing)
      ∧ (isTextRun y = true → beyond (.ok x) = .nothing) := by
  obtain ⟨noText, noToken⟩ := apart
  cases x <;> cases y <;> simp [isTextRun, isToken] at noText noToken <;>
    simp [beyond, isTextRun, isToken]

/-- A boundary lays out the leaf on either side as what stands on the other side asks for. -/
theorem resolve_made (h : resolve .standard carry left right = .ok b)
    : EndMade (beyond right.firstLeaf) left b.left
      ∧ StartMade (beyond left.lastLeaf) right b.right := by
  cases resolves_of_ok h with
  | @texts l r m m' _ _ hl hr =>
      have last : beyond left.lastLeaf = .text := by rw [hl]; rfl
      have first : beyond right.firstLeaf = .text := by rw [hr]; rfl
      rw [last, first]
      cases bl : isBlankRun l with
      | false =>
          cases br : isBlankRun r with
          | false =>
              rw [resolve_visible hl hr bl br] at h
              rw [← Except.ok.inj h]
              exact ⟨.text hl (.beforeText bl), .text hr (.afterText br)⟩
          | true =>
              rw [resolve_before_blank hl hr bl br] at h
              rw [← Except.ok.inj h]
              exact ⟨.text hl (.beforeText bl), .text hr (.blank br rfl)⟩
      | true =>
          cases br : isBlankRun r with
          | false =>
              rw [resolve_after_blank hl hr bl br] at h
              rw [← Except.ok.inj h]
              exact ⟨.text hl (.blank bl (isBlankRun_gap _)), .text hr (.afterText br)⟩
          | true =>
              rw [resolve_blank hl hr bl br] at h
              rw [← Except.ok.inj h]
              exact ⟨.text hl (.blank bl rfl), .text hr (.blank br rfl)⟩
  | @beforeToken l m t _ hl hr token =>
      rw [resolve_text_token hl hr token] at h
      rw [← Except.ok.inj h, beyond_token hr token]
      refine ⟨.text hl (.beforeToken _ _), .refl hr fun text => ?_⟩
      rw [noText_of_isToken token] at text
      cases text
  | @afterToken t r m _ hl hr token =>
      rw [resolve_token_text hl hr token] at h
      rw [← Except.ok.inj h, beyond_token hl token]
      refine ⟨.refl hl fun text => ?_, .text hr (.afterToken _ _)⟩
      rw [noText_of_isToken token] at text
      cases text
  | apart hl hr apart =>
      obtain ⟨beforeText, afterText⟩ := beyond_apart apart
      rw [hl, hr]
      exact ⟨.refl hl beforeText, .refl hr afterText⟩

/-- What stands beyond an edge is the same before the leaf there has been changed. -/
theorem Found.beyond {edge : Chars → Chars} {x y : Except DeadEnd Node} (h : Stays edge x y)
    : Spacing.beyond y = Spacing.beyond x := by
  cases h with
  | leaf kept => rw [Spacing.beyond, Spacing.beyond, kept.same.isTextRun, kept.same.isToken]
  | deadEnd => rfl

-----------------------------------------------------------------------------------------
-- Runs
-----------------------------------------------------------------------------------------

theorem laidOut_leaf (single : n.isContainer = false) (noText : isTextRun n = false)
    (still : d.isContainer = false) (same : SameVisible n d)
    : LaidOut options before after n d :=
  .leaf single still (.other noText same)

mutual

/-- A run of the usual rules that nothing stops lays out a node. By induction on the tree; along a
row, each child is laid out behind the source of the child before when the boundary between them has
been resolved, and before the source of the child that follows at the next one. -/
theorem formatNode_laidOut (n : Node) (h : (formatNode .standard options n).fault = none)
    : LaidOut options .nothing .nothing n (formatNode .standard options n).result := by
  cases n with
  | group form cs m => exact .group (formatEach_laidOut cs h)
  | flow form cs m =>
      cases cs with
      | nil => exact .flow .nil
      | cons c cs =>
          obtain ⟨head, rest, same⟩ := formatFlow_cons h
          have row := formatRest_laidOut form.kind .empty (formatNode_laidOut c head)
            (formatNode_exact c head).ends cs rest
          simp only [formatNode, Run.map, same]
          exact .flow row
  | text s m =>
      rw [formatNode_text]
      refine .leaf rfl rfl ?_
      cases blank : isBlankRun s with
      | true =>
          have still : (if options.text = true then tidyRun s else s) = s := by
            split
            · exact tidyText_blank blank
            · rfl
          rw [still]
          exact .blank blank blank
      | false => exact .visible blank (laidOutText_tidied options blank)
  | math form s m =>
      rw [formatNode_math]
      refine laidOut_leaf rfl rfl rfl (.math ?_)
      split
      · exact dense_tidyMath s
      · rfl
  | code | note | inert => exact laidOut_leaf rfl rfl rfl .refl
termination_by sizeOf n

theorem formatEach_laidOut (cs : List Node) (h : (formatEach .standard options cs).fault = none)
    : LaidOutEach options .nothing .nothing cs (formatEach .standard options cs).result := by
  match cs with
  | [] => exact .nil
  | [c] =>
      obtain ⟨head, -, same⟩ := formatEach_cons h
      rw [same]
      exact .last (formatNode_laidOut c head)
  | c :: next :: rest =>
      obtain ⟨head, tail, same⟩ := formatEach_cons h
      rw [same]
      exact .cons (formatNode_laidOut c head) (formatEach_laidOut (next :: rest) tail)
termination_by sizeOf cs

theorem formatRest_laidOut {arrived : Beyond} (kind : Kind) (carry : Carry) {n before : Node}
    (laid : LaidOut options arrived .nothing n before)
    (ends : Stays trail n.lastLeaf before.lastLeaf) (cs : List Node)
    (h : (formatRest .standard options kind carry before cs).fault = none)
    : LaidOutRow options arrived .nothing (n :: cs)
        (formatRest .standard options kind carry before cs).result := by
  cases cs with
  | nil => exact .last (laid.repay carry.owed)
  | cons c cs =>
      obtain ⟨b, head, resolved, rest, same⟩ := formatRest_cons h
      have next := formatNode_exact c head
      obtain ⟨-, start⟩ := resolve_edits resolved
      obtain ⟨endMade, startMade⟩ := resolve_made resolved
      rw [next.starts.beyond] at endMade
      rw [ends.beyond] at startMade
      have row := formatRest_laidOut kind b.carry ((formatNode_laidOut c head).startMade startMade)
        (next.ends.trans start.stays) cs rest
      rw [same]
      exact .cons (laid.endMade endMade) row
termination_by sizeOf cs

end

end MixedScript.Spacing
