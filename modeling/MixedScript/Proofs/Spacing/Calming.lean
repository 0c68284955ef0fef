import MixedScript.Proofs.Spacing.Calm

/-! Spacing by the usual rules calms a tree. Along a row of children, a boundary that has been
resolved is calm at once; what the next boundary does to the child between them it does at the end of
that child, and that does not disturb the boundary before. -/

namespace MixedScript.Spacing

variable {options : SpacingOptions} {carry : Carry} {b : Resolved} {l r t : Chars}
  {m m' : Mapping} {w before right : Node} {arrived onward : Option (Option Char)}

-----------------------------------------------------------------------------------------
-- How a child has been reached
-----------------------------------------------------------------------------------------

/-- Work on a row has reached the child `w`: what is handed on is the character in sight, and behind a
text the child does not start with a space any more. -/
structure Reached (arrived : Option (Option Char)) (carry : Carry) (w : Node) : Prop where
  seen : carry.seen.getLast? = arrived.join
  emptied : Emptied arrived w

theorem reached_empty (w : Node)
    : Reached none .empty w where
  seen := rfl
  emptied := emptied_none w

/-- Behind a text that holds something visible, or one that hands on what it was given. -/
theorem Reached.behind {sight : Option Char} {owed : Bool} {seen : Chars}
    (inSight : seen.getLast? = sight) (starts : w.firstLeaf = .ok (.text r m))
    (emptied : isBlankRun r = true → r = [])
    : Reached (some sight) ⟨owed, seen⟩ w where
  seen := inSight
  emptied := by
    intro c s m' _ found blank
    obtain ⟨rfl, -⟩ : r = s ∧ m = m' := by simpa using starts.symm.trans found
    exact emptied blank

/-- A blank text of its own hands on the character in sight. -/
theorem getLast?_handedOn (seen : carry.seen.getLast? = arrived.join) (w : Node)
    : (handedOn carry w).getLast? = inSight arrived w := by
  unfold handedOn inSight
  split
  · exact seen
  · rfl

theorem isTextRun_mapLastLeaf (t : Chars) (n : Node)
    : isTextRun (n.mapLastLeaf (Node.withText t)) = isTextRun n := by
  cases n <;> rfl

theorem inSight_mapLastLeaf (arrived : Option (Option Char)) (t : Chars) (n : Node)
    : inSight arrived (n.mapLastLeaf (Node.withText t)) = inSight arrived n := by
  rw [inSight, inSight, isTextRun_mapLastLeaf]

/-- A child that has been emptied at its start stays so, unless a space is put into an only leaf. -/
theorem Emptied.withText (h : Emptied arrived before) (hl : before.lastLeaf = .ok (.text l m))
    (kept : t ≠ [] → isBlankRun t = true → isBlankRun l = true ∧ l ≠ [])
    : Emptied arrived (before.mapLastLeaf (Node.withText t)) := by
  intro c s m' reached found blank
  have leafMap := (Node.textChange_withText t).leafMap
  rcases Node.firstLeaf_mapLastLeaf leafMap before hl with same | ⟨same, now⟩
  · exact h c s m' reached (same.symm.trans found) blank
  · obtain ⟨rfl, -⟩ : t = s ∧ m = m' := by simpa [Node.withText] using now.symm.trans found
    by_contra filled
    obtain ⟨bl, spaced⟩ := kept filled blank
    exact spaced (h c l m reached same bl)

theorem Emptied.alone_or (h : Emptied arrived before) (t : Chars)
    : (before.mapLastLeaf (Node.withText t)).isLone = true
      ∨ Emptied arrived (before.mapLastLeaf (Node.withText t)) := by
  cases lone : before.isLone with
  | true =>
      obtain ⟨_, -, -, same⟩ := Node.exists_leaf_of_isLone before lone
      rw [← same, Node.isLone_mapFirstLeaf (Node.textChange_withText t).leafMap, lone]
      exact .inl rfl
  | false =>
      right
      intro c s m reached found
      rw [(Node.edges_apart (Node.withText t) before lone).2] at found
      exact h c s m reached found

-----------------------------------------------------------------------------------------
-- One boundary
-----------------------------------------------------------------------------------------

/-- A boundary that has been resolved is calm, with the space that it has put there if any, and the
child after it has been reached. -/
inductive Calmed (arrived : Option (Option Char)) (b : Resolved) : Prop
  | joined {onward : Option (Option Char)} (still : b.space = false)
      (joint : CalmSeam arrived b.left b.right onward) (reached : Reached onward b.carry b.right)
  | spaced {onward onward' : Option (Option Char)} (space : b.space = true)
      (beforeSpace : CalmSeam arrived b.left Node.space onward)
      (afterSpace : CalmSeam onward Node.space b.right onward')
      (reached : Reached onward' b.carry b.right)

theorem visible_of_trimmed (vl : isBlankRun l = false) (P : Prop)
    : trimRight l ≠ [] → isBlankRun (trimRight l) = true → P := by
  intro _ blank
  rw [isBlankRun_congr (visible_trimRight l), vl] at blank
  cases blank

theorem calmed_visible (reached : Reached arrived carry before)
    (hl : before.lastLeaf = .ok (.text l m)) (hr : right.firstLeaf = .ok (.text r m'))
    (vl : isBlankRun l = false) (vr : isBlankRun r = false)
    (h : resolve .standard carry before right = .ok b)
    : Calmed arrived b := by
  have ends := Node.lastLeaf_withText hl (trimRight l)
  have starts := Node.firstLeaf_withText hr (trimLeft r)
  have vl' : isBlankRun (trimRight l) = false := (isBlankRun_congr (visible_trimRight l)).trans vl
  have vr' : isBlankRun (trimLeft r) = false := (isBlankRun_congr (visible_trimLeft r)).trans vr
  have emptied := reached.emptied.withText hl (visible_of_trimmed vl _)
  rw [resolve_visible hl hr vl vr] at h
  obtain rfl := Except.ok.inj h
  have next : Reached (some (trimRight l).getLast?) ⟨false, trimRight l⟩
      (right.mapFirstLeaf (Node.withText (trimLeft r))) :=
    .behind rfl starts (fun blank => by rw [vr'] at blank; cases blank)
  cases decided : spaceBetween classify (trimRight l) (trimLeft r) (endsBlank l || startsBlank r) with
  | false =>
      exact .joined rfl
        (.visible ends starts vl' vr' (edges_trimRight vl).1 (edges_trimLeft vr).1
          (spaceAt_tight decided) emptied)
        next
  | true =>
      have wide := spaceAt_wide decided
      exact .spaced rfl
        (.beforeBlank ends rfl vl' (narrow_gap true) (edges_trimRight vl).1 emptied)
        (.afterBlank rfl starts (narrow_gap true) vr' (edges_trimLeft vr).1 (fun _ => wide)
          (.inl rfl))
        next

/-- With a blank text on a side there is no space between the children. -/
theorem calmed_blank (reached : Reached arrived carry before)
    (hl : before.lastLeaf = .ok (.text l m)) (hr : right.firstLeaf = .ok (.text r m'))
    (blank : isBlankRun l = true ∨ isBlankRun r = true)
    (h : resolve .standard carry before right = .ok b)
    : Calmed arrived b := by
  have ends := Node.lastLeaf_withText hl
  have starts := Node.firstLeaf_withText hr
  cases bl : isBlankRun l with
  | false =>
      have br : isBlankRun r = true := blank.resolve_left (by rw [bl]; nofun)
      have vl' : isBlankRun (trimRight l) = false :=
        (isBlankRun_congr (visible_trimRight l)).trans bl
      rw [resolve_before_blank hl hr bl br] at h
      obtain rfl := Except.ok.inj h
      exact .joined rfl
        (.beforeBlank (ends _) (starts _) vl' (narrow_gap false) (edges_trimRight bl).1
          (reached.emptied.withText hl (visible_of_trimmed bl _)))
        (.behind rfl (starts _) fun _ => rfl)
  | true =>
      cases br : isBlankRun r with
      | false =>
          have vr' : isBlankRun (trimLeft r) = false :=
            (isBlankRun_congr (visible_trimLeft r)).trans br
          rw [resolve_after_blank hl hr bl br] at h
          obtain rfl := Except.ok.inj h
          -- The text keeps a space only where one is wanted.
          have wanted : gap ((endsBlank l || startsBlank r || carry.owed)
                && keepsBlank carry before (trimLeft r)) = [' ']
              → spaceAt (inSight arrived before) (trimLeft r).head? true = true := by
            intro kept
            rw [← getLast?_handedOn reached.seen]
            cases keeps : keepsBlank carry before (trimLeft r) with
            | false => rw [keeps, Bool.and_false] at kept; cases kept
            | true => exact keeps
          rw [← inSight_mapLastLeaf] at wanted
          exact .joined rfl
            (.afterBlank (ends _) (starts _) (narrow_gap _) vr' (edges_trimLeft br).1 wanted
              (reached.emptied.alone_or _))
            (.behind (by rw [inSight_mapLastLeaf, getLast?_handedOn reached.seen]) (starts _)
              fun blank => by rw [vr'] at blank; cases blank)
      | true =>
          rw [resolve_blank hl hr bl br] at h
          obtain rfl := Except.ok.inj h
          exact .joined rfl
            (.blanks (ends _) (starts _) rfl (narrow_gap false)
              (reached.emptied.withText hl (absurd rfl)))
            (.behind (by rw [inSight_mapLastLeaf, getLast?_handedOn reached.seen]) (starts _)
              fun _ => rfl)

/-- A boundary that is resolved is calm. -/
theorem resolve_calmed (reached : Reached arrived carry before)
    (h : resolve .standard carry before right = .ok b)
    : Calmed arrived b := by
  cases resolves_of_ok h with
  | @texts l r m m' _ _ hl hr =>
      by_cases blank : isBlankRun l = true ∨ isBlankRun r = true
      · exact calmed_blank reached hl hr blank h
      · obtain ⟨vl, vr⟩ := not_or.mp blank
        exact calmed_visible reached hl hr (Bool.eq_false_of_not_eq_true vl)
          (Bool.eq_false_of_not_eq_true vr) h
  | @beforeToken l _ _ _ hl hr token =>
      rw [resolve_text_token hl hr token] at h
      rw [← Except.ok.inj h]
      refine .joined rfl
        (.beforeToken (Node.lastLeaf_withText hl _) hr token (beforeToken_beforeToken l) ?_)
        (reached_empty right)
      -- A blank text behind another is empty already, and stays so.
      refine reached.emptied.withText hl fun spaced blank => ?_
      rw [isBlankRun_congr (visible_spaceBeforeToken (spaceBeforeToken_standard l))] at blank
      refine ⟨blank, ?_⟩
      rintro rfl
      exact spaced rfl
  | @afterToken _ r _ _ hl hr token =>
      rw [resolve_token_text hl hr token] at h
      rw [← Except.ok.inj h]
      exact .joined rfl
        (.afterToken hl (Node.firstLeaf_withText hr _) token (afterToken_afterToken r)
          reached.emptied)
        (reached_empty _)
  | apart hl hr apart =>
      exact .joined rfl (.apart hl hr apart reached.emptied) (reached_empty right)

-----------------------------------------------------------------------------------------
-- Trees
-----------------------------------------------------------------------------------------

/-- What has become of a row from the child `before` on: it is calm, and it starts with that child,
which may have changed at its end. -/
inductive CalmFrom (options : SpacingOptions) (arrived : Option (Option Char)) (before : Node)
    : List Node → Prop
  | row {e : Node} {ws : List Node} (calm : CalmRow options arrived (e :: ws))
      (starts : Found EndChange before.firstLeaf e.firstLeaf)
      : CalmFrom options arrived before (e :: ws)

theorem calm_leaf {n : Node} (single : n.isContainer = false)
    : Calm options (formatNode .standard options n).result := by
  refine .leaf ?_ (fixed_formatNode options single)
  cases n with
  | group | flow => cases single
  | text => rw [formatNode_text]; rfl
  | math => rw [formatNode_math]; rfl
  | code | note | inert => rfl

theorem calm_space
    : Calm options Node.space :=
  .leaf rfl (fixed_blank rfl)

/-- A row goes on before a child once the boundary between them has been calmed. -/
theorem CalmFrom.cons {nodes : Row} (calm : Calm options before) (edit : EndEdit before b.left)
    (calmed : Calmed arrived b)
    (rest : ∀ {onward}, Reached onward b.carry b.right
      → CalmFrom options onward b.right (weave nodes))
    : CalmFrom options arrived before (weave ((b.left, b.space) :: nodes)) := by
  rw [weave_cons]
  have calmLeft := calm.endEdit edit
  cases calmed with
  | joined still joint reached =>
      rw [still]
      generalize weave nodes = ws at rest
      obtain ⟨row, starts⟩ := rest reached
      exact .row (.cons calmLeft (joint.endChange starts) row) edit.firstLeaf
  | spaced space beforeSpace afterSpace reached =>
      rw [space]
      generalize weave nodes = ws at rest
      obtain ⟨row, starts⟩ := rest reached
      exact .row
        (.cons calmLeft beforeSpace (.cons calm_space (afterSpace.endChange starts) row))
        edit.firstLeaf

mutual

/-- Spacing by the usual rules that nothing stops calms a tree. By induction on the tree; along a row,
the child before has been calmed itself and reached from the left. -/
theorem formatNode_calm (n : Node) (h : (formatNode .standard options n).fault = none)
    : Calm options (formatNode .standard options n).result := by
  cases n with
  | group form cs m => exact .group (formatEach_calm cs h)
  | flow form cs m =>
      cases cs with
      | nil => exact .flow .nil
      | cons c cs =>
          obtain ⟨head, rest, same⟩ := formatFlow_cons h
          have row := formatRest_calm form.kind (formatNode_calm c head) (reached_empty _) cs rest
          simp only [formatNode, Run.map, same]
          generalize weave _ = ws at row
          obtain ⟨row, -⟩ := row
          exact .flow row
  | text | math | code | note | inert => exact calm_leaf rfl
termination_by sizeOf n

theorem formatEach_calm (cs : List Node) (h : (formatEach .standard options cs).fault = none)
    : CalmEach options (formatEach .standard options cs).result := by
  cases cs with
  | nil => exact .nil
  | cons c cs =>
      obtain ⟨head, tail, same⟩ := formatEach_cons h
      rw [same]
      exact .cons (formatNode_calm c head) (formatEach_calm cs tail)
termination_by sizeOf cs

theorem formatRest_calm (kind : Kind) {arrived : Option (Option Char)} {carry : Carry}
    {before : Node} (calm : Calm options before) (reached : Reached arrived carry before)
    (cs : List Node) (h : (formatRest .standard options kind carry before cs).fault = none)
    : CalmFrom options arrived before
        (weave (formatRest .standard options kind carry before cs).result) := by
  cases cs with
  | nil =>
      exact .row (.last (calm.startEdit (startEdit_repay carry.owed before)))
        (firstLeaf_repay carry.owed before)
  | cons c cs =>
      obtain ⟨b, head, resolved, rest, same⟩ := formatRest_cons h
      obtain ⟨edit, start⟩ := resolve_edits resolved
      rw [same]
      exact .cons calm edit (resolve_calmed reached resolved) fun onward =>
        formatRest_calm kind ((formatNode_calm c head).startEdit start) onward cs rest
termination_by sizeOf cs

end

end MixedScript.Spacing
