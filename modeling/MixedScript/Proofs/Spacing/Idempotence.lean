import MixedScript.Proofs.Spacing.SecondRun

/-! When spacing changes nothing the second time. The first blank text in a tree that holds a space
and meets another blank text loses the space for good, and all leaves before it stay as they were. -/

namespace MixedScript.Spacing

variable {options : SpacingOptions} {carry : Carry} {b : Resolved} {l r : Chars}
  {m m' : Mapping} {n d w w' x left right : Node} {arrived : Option (Option Char)}

-----------------------------------------------------------------------------------------
-- The first difference
-----------------------------------------------------------------------------------------

/-- Two rows of leaves that differ first where a text of nothing but space has been emptied, with more
leaves after it. -/
inductive Loses : List Node → List Node → Prop
  | mk {s : Chars} {m : Mapping} {after after' : List Node} (before : List Node)
      (blank : isBlankRun s = true) (filled : s ≠ []) (more : after' ≠ [])
      : Loses (before ++ .text s m :: after) (before ++ .text [] m :: after')

section Loses

variable {ns ds more more' : List Node}

theorem Loses.ne (h : Loses ns ds)
    : ns ≠ ds := by
  obtain ⟨before, -, filled, -⟩ := h
  intro same
  have heads := List.append_cancel_left same
  simp only [List.cons.injEq, Node.text.injEq] at heads
  exact filled heads.1.1

theorem Loses.append_left (before : List Node) (h : Loses ns ds)
    : Loses (before ++ ns) (before ++ ds) := by
  obtain ⟨start, blank, filled, more⟩ := h
  rw [← List.append_assoc, ← List.append_assoc]
  exact .mk (before ++ start) blank filled more

theorem Loses.append_right (h : Loses ns ds) (more more' : List Node)
    : Loses (ns ++ more) (ds ++ more') := by
  obtain ⟨before, blank, filled, rest⟩ := h
  rw [List.append_assoc, List.append_assoc, List.cons_append, List.cons_append]
  exact .mk before blank filled (List.append_ne_nil_of_left_ne_nil rest _)

/-- What is lost is lost before the last leaf. -/
theorem Loses.changeLast {last : Node} (h : Loses ns (ds ++ [last])) (last' : Node)
    : Loses ns (ds ++ [last']) := by
  generalize shape : ds ++ [last] = all at h
  obtain ⟨before, blank, filled, more⟩ := h
  obtain ⟨rest, final, rfl⟩ := (List.eq_nil_or_concat' _).resolve_left more
  rw [← List.cons_append, ← List.append_assoc] at shape
  obtain ⟨rfl, -⟩ := List.append_inj' shape rfl
  rw [List.append_assoc, List.cons_append]
  exact .mk before blank filled (List.append_ne_nil_of_right_ne_nil rest (List.cons_ne_nil _ _))

/-- The first leaf is the one that has been emptied, or it is the same. -/
theorem Loses.firstLeaf (h : Loses n.leaves d.leaves) (found : n.firstLeaf = .ok left)
    (foundNow : d.firstLeaf = .ok right)
    : right = left ∨ ∃ s m, left = .text s m ∧ right = .text [] m ∧ isBlankRun s = true := by
  obtain ⟨rest, leaves⟩ := Node.leaves_of_firstLeaf found
  obtain ⟨rest', leavesNow⟩ := Node.leaves_of_firstLeaf foundNow
  rw [leaves, leavesNow] at h
  generalize first : left :: rest = ns at h
  generalize second : right :: rest' = ds at h
  obtain ⟨before, blank, filled, more⟩ := h
  cases before with
  | nil => exact .inr ⟨_, _, (List.cons.inj first).1, (List.cons.inj second).1, blank⟩
  | cons a before => exact .inl ((List.cons.inj second).1.trans (List.cons.inj first).1.symm)

end Loses

-----------------------------------------------------------------------------------------
-- The second run
-----------------------------------------------------------------------------------------

/-- What becomes of a calm tree: nothing changes, unless blank texts meet in it. -/
structure Again (n d : Node) : Prop where
  settled : hasBlanksMeeting n = false → d = n
  unsettled : hasBlanksMeeting n = true → Loses n.leaves d.leaves

structure AgainEach (ns ds : List Node) : Prop where
  settled : hasBlanksMeetingEach ns = false → ds = ns
  unsettled : hasBlanksMeetingEach ns = true → Loses (Node.leavesOf ns) (Node.leavesOf ds)

structure AgainRow (ns ds : List Node) : Prop where
  settled : hasBlanksMeetingRow ns = false → ds = ns
  unsettled : hasBlanksMeetingRow ns = true → Loses (Node.leavesOf ns) (Node.leavesOf ds)

theorem Again.same (none : hasBlanksMeeting n = false)
    : Again n n where
  settled _ := rfl
  unsettled some := by rw [none] at some; cases some

theorem AgainEach.cons {ns ds : List Node} (head : Again n d) (tail : AgainEach ns ds)
    : AgainEach (n :: ns) (d :: ds) where
  settled none := by
    obtain ⟨here, later⟩ := Bool.or_eq_false_iff.mp none
    rw [head.settled here, tail.settled later]
  unsettled some := by
    cases here : hasBlanksMeeting n with
    | true => exact (head.unsettled here).append_right _ _
    | false =>
        rw [hasBlanksMeetingEach, here, Bool.false_or] at some
        rw [head.settled here]
        exact (tail.unsettled some).append_left n.leaves

theorem AgainRow.last (head : Again n d)
    : AgainRow [n] [d] where
  settled none := by rw [head.settled none]
  unsettled some := (head.unsettled some).append_right _ _

/-- A row goes on behind a child that has stayed as it was. -/
theorem AgainRow.cons {ns ds : List Node} (here : hasBlanksMeeting w = false)
    (unmet : blanksMeet w w' = false) (tail : AgainRow (w' :: ns) ds)
    : AgainRow (w :: w' :: ns) (w :: ds) where
  settled none := by
    rw [hasBlanksMeetingRow, here, unmet] at none
    rw [tail.settled none]
  unsettled some := by
    rw [hasBlanksMeetingRow, here, unmet] at some
    exact (tail.unsettled some).append_left w.leaves

/-- What has been lost in a row stays lost. -/
theorem AgainRow.lost {ns ds : List Node} (some : hasBlanksMeetingRow ns = true)
    (loses : Loses (Node.leavesOf ns) (Node.leavesOf ds))
    : AgainRow ns ds where
  settled none := by rw [some] at none; cases none
  unsettled _ := loses

/-- What becomes of a calm child changes its first leaf at the end at most. -/
theorem Again.firstLeaf (again : Again n d) (stays : Stays lead n.firstLeaf d.firstLeaf)
    : Found EndChange n.firstLeaf d.firstLeaf := by
  cases some : hasBlanksMeeting n with
  | false =>
      rw [again.settled some]
      exact .refl (fun _ => .same) _
  | true =>
      generalize found : n.firstLeaf = x at stays
      generalize foundNow : d.firstLeaf = y at stays
      cases stays with
      | deadEnd => exact .deadEnd
      | leaf =>
          rcases (again.unsettled some).firstLeaf found foundNow with rfl | ⟨s, m, rfl, rfl, blank⟩
          · exact .leaf .same
          · exact .leaf (.blank blank false)

theorem Loses.endEdit {ns : List Node} (h : Loses ns d.leaves) (edit : EndEdit d x)
    : Loses ns x.leaves := by
  cases edit with
  | none => exact h
  | change leafMap found =>
      obtain ⟨before, leaves, changed, -⟩ := Node.lastLeaf_change leafMap d found
      rw [changed]
      rw [leaves] at h
      exact h.changeLast _

theorem AgainEach.group {form : Group} {ns ds : List Node} (h : AgainEach ns ds)
    : Again (.group form ns m) (.group form ds m) where
  settled none := by rw [h.settled none]
  unsettled := h.unsettled

theorem AgainRow.flow {form : Flow} {ns ds : List Node} (h : AgainRow ns ds)
    : Again (.flow form ns m) (.flow form ds m) where
  settled none := by rw [h.settled none]
  unsettled := h.unsettled

/-- A child in which something has been lost has not given away a space of its own. -/
theorem Owing.of_loses {owed : Bool} (h : Owing arrived d owed x) (lost : Loses n.leaves d.leaves)
    (stays : Stays lead n.firstLeaf d.firstLeaf) (emptied : Emptied arrived n)
    : x = d := by
  cases h with
  | nothing => rfl
  | space behind starts =>
      obtain ⟨left, found, -⟩ := stays.source starts
      rcases lost.firstLeaf found starts with rfl | ⟨_, _, -, empty, -⟩
      · exact nomatch emptied _ _ _ behind found rfl
      · cases empty

/-- A row that starts with a leaf has leaves. -/
theorem SpacedRow.leaves_ne_nil {ns : List Node} {nodes : Row} (h : SpacedRow d ns nodes)
    (found : d.firstLeaf = .ok left)
    : Node.leavesOf (weave nodes) ≠ [] := by
  obtain ⟨first, found, -⟩ := (h.starts .paragraph).ok found
  obtain ⟨rest, leaves⟩ := Node.leavesOf_of_firstLeafOf found
  rw [leaves]
  exact List.cons_ne_nil _ _

/-- Where blank texts meet, the first of them is emptied. -/
theorem loses_here (hl : left.lastLeaf = .ok (.text l m)) (hr : right.firstLeaf = .ok (.text r m'))
    (bl : isBlankRun l = true) (filled : l ≠ []) (br : isBlankRun r = true)
    (resolved : resolve .standard carry left right = .ok b) (after : List Node) {after' : List Node}
    (more : after' ≠ [])
    : Loses (left.leaves ++ after) (b.left.leaves ++ after') := by
  rw [resolve_blank hl hr bl br] at resolved
  obtain rfl := Except.ok.inj resolved
  obtain ⟨before, leaves, changed, -⟩ :=
    Node.lastLeaf_change (Node.textChange_withText []).leafMap left hl
  rw [leaves, changed, List.append_assoc, List.append_assoc, List.singleton_append,
    List.singleton_append]
  exact .mk before bl filled more

mutual

/-- A calm tree stays as it is, unless blank texts meet in it. By induction on the tree; along a row,
either something has been lost already, or all the children before are as they were. -/
theorem formatNode_again (n : Node) (calm : Calm options n)
    : Again n (formatNode .standard options n).result := by
  cases calm with
  | group each => exact (formatEach_again _ each).group
  | @flow form cs m row =>
      cases cs with
      | nil => exact .same rfl
      | cons c cs =>
          have quiet := formatNode_quiet (.flow form (c :: cs) m) (.flow row)
          obtain ⟨head, rest, same⟩ := formatFlow_cons quiet.1
          have tail := formatRest_again form.kind cs row (formatNode_again c row.head)
            (formatNode_exact c head) (returned_empty _) rest
          simp only [formatNode, Run.map, same]
          exact tail.flow
  | leaf single fixed =>
      rw [fixed]
      refine .same ?_
      cases n <;> first | rfl | cases single
termination_by sizeOf n

theorem formatEach_again (cs : List Node) (each : CalmEach options cs)
    : AgainEach cs (formatEach .standard options cs).result := by
  cases each with
  | nil => exact ⟨fun _ => rfl, nofun⟩
  | cons head tail =>
      obtain ⟨-, -, same⟩ := formatEach_cons (formatEach_quiet _ (.cons head tail)).1
      rw [same]
      exact .cons (formatNode_again _ head) (formatEach_again _ tail)
termination_by sizeOf cs

theorem formatRest_again (kind : Kind) {arrived : Option (Option Char)} {carry : Carry}
    {w x y : Node} (ws : List Node) (row : CalmRow options arrived (w :: ws)) (again : Again w y)
    (spaced : Spaced w y) (returned : Returned arrived y carry x)
    (h : (formatRest .standard options kind carry x ws).fault = none)
    : AgainRow (w :: ws) (weave (formatRest .standard options kind carry x ws).result) := by
  cases row with
  | last =>
      simp only [formatRest, weave, returned.owing.repay]
      exact .last again
  | @cons _ _ _ w' ws _ joint rest =>
      obtain ⟨b, head, resolved, onwards, same⟩ := formatRest_cons h
      have next := formatNode_exact w' head
      have nextAgain := formatNode_again w' rest.head
      have starts := nextAgain.firstLeaf next.starts
      rw [same]
      cases inside : hasBlanksMeeting w with
      | true =>
          -- What is lost in the child before stays lost: it has more leaves, so the boundary does not
          -- reach the one that has been emptied.
          have lost := again.unsettled inside
          have more : w.isLone = false := by
            by_contra lone
            rw [hasBlanksMeeting_of_isLone w (Bool.eq_true_of_not_eq_false lone)] at inside
            cases inside
          obtain rfl := returned.owing.of_loses lost spaced.starts (joint.emptied (.inl more))
          obtain ⟨edit, -⟩ := resolve_edits resolved
          refine .lost (by rw [hasBlanksMeetingRow, inside]; rfl) ?_
          rw [leavesOf_weave_cons]
          exact (lost.endEdit edit).append_right _ _
      | false =>
          obtain rfl := again.settled inside
          cases met : blanksMeet y w' with
          | true =>
              -- Nothing has been taken from the child before, so its last leaf still holds the space.
              obtain ⟨l, m, r, m', hl, hr⟩ := texts_of_blanksMeet met
              obtain ⟨bl, filled, br⟩ := (blanksMeet_iff hl hr).mp met
              obtain ⟨-, rfl⟩ := returned.owing.of_emptied (joint.emptied (.inr ⟨_, hr, br⟩))
              obtain ⟨_, hr', change⟩ := starts.ok hr
              obtain ⟨r', rfl, -⟩ := change.of_blank br
              obtain ⟨-, start⟩ := resolve_edits resolved
              have tail := formatRest_exact kind b.carry (next.inside.startEdit start)
                (next.ends.trans start.stays) ws onwards
              obtain ⟨_, first⟩ := start.firstLeaf hr'
              have more := tail.leaves_ne_nil first
              refine .lost (by rw [hasBlanksMeetingRow, inside, met]; rfl) ?_
              rw [leavesOf_weave_cons]
              exact loses_here hl hr' bl filled (change.isBlankText.trans br) resolved _
                (List.append_ne_nil_of_right_ne_nil _ more)
          | false =>
              obtain ⟨carry', x', fixed, returned'⟩ :=
                resolve_fixed (joint.endChange starts) ((blanksMeet_congr starts).trans met) returned
              obtain rfl := Except.ok.inj (fixed.symm.trans resolved)
              exact .cons inside met
                (formatRest_again kind ws rest nextAgain next returned' onwards)
termination_by sizeOf ws

end

-----------------------------------------------------------------------------------------
-- Idempotence
-----------------------------------------------------------------------------------------

/-- Where spacing by the usual rules succeeds it succeeds again on its result, and puts no space in.
It changes nothing the second time exactly if in no flow of the result a blank text that holds some
space meets another blank text. -/
theorem format_again_iff (options : SpacingOptions) (tree : Node)
    (h : (format .standard options tree).fault = none)
    : let once := (format .standard options tree).result
      let again := format .standard options once
      again.fault = none
      ∧ again.splices = []
      ∧ (again.result = once ↔ hasBlanksMeeting once = false) := by
  intro once again
  have calm : Calm options once := formatNode_calm tree h
  obtain ⟨fault, splices⟩ := formatNode_quiet once calm
  have becomes := formatNode_again once calm
  refine ⟨fault, splices, fun same => ?_, becomes.settled⟩
  by_contra met
  have lost := becomes.unsettled (Bool.eq_true_of_not_eq_false met)
  exact lost.ne (congrArg Node.leaves same).symm

/-- The text that ends the emphasis hands its space to the blank one behind it, which gets it back at
the end of the emphasis and keeps it before the text that follows. -/
theorem mixed_tree_settled
    : let tree := Node.flow .paragraph [.text ['中', ' '] [],
        .flow .emphasis [.text ['a', ' '] [], .text [] []] [], .text ['文'] [], .code ['x'] []] []
      let once := (format .standard {} tree).result
      (format .standard {} tree).fault = none
      ∧ hasBlanksMeeting once = false
      ∧ (format .standard {} once).fault = none
      ∧ (format .standard {} once).splices = []
      ∧ (format .standard {} once).result = once := by
  intro tree once
  obtain ⟨fault, splices, settled⟩ := format_again_iff {} tree rfl
  exact ⟨rfl, rfl, fault, splices, settled.mpr rfl⟩

/-- The space that starts a paragraph is written back to the emphasis that ends it, before another
blank text. The second time it goes on to that text, and the emphasis starts with an empty one. -/
theorem refilled_emphasis_changes_again
    : let tree := Node.flow .paragraph
        [.text [' '] [], .flow .emphasis [.text [' '] [], .text [' '] []] []] []
      let once := format .standard {} tree
      let again := format .standard {} once.result
      once.fault = none
      ∧ once.result = .flow .paragraph
          [.text [] [], .flow .emphasis [.text [' '] [], .text [' '] []] []] []
      ∧ again.result = .flow .paragraph
          [.text [] [], .flow .emphasis [.text [] [], .text [' '] []] []] []
      ∧ again.result ≠ once.result := by
  intro tree once again
  have first : once.result = .flow .paragraph
      [.text [] [], .flow .emphasis [.text [' '] [], .text [' '] []] []] [] := rfl
  have second : again.result = .flow .paragraph
      [.text [] [], .flow .emphasis [.text [] [], .text [' '] []] []] [] := rfl
  refine ⟨rfl, first, second, ?_⟩
  rw [first, second]
  simp

end MixedScript.Spacing
