import MixedScript.Proofs.Spacing.Calming
import MixedScript.Proofs.Spacing.Exact

/-! A second run over a tree that has been spaced. Nothing stops it and it puts no space in. A calm
boundary takes a space away from the child after it and owes it; the next boundary, or the end of the
row, gives it back. Only where blank texts meet does it go on to another leaf. -/

namespace MixedScript.Spacing

variable {options : SpacingOptions} {carry : Carry} {l r : Chars} {m m' : Mapping}
  {n d w w' x y left right : Node} {arrived onward : Option (Option Char)}

-----------------------------------------------------------------------------------------
-- Blank texts that meet
-----------------------------------------------------------------------------------------

/-- Whether a leaf is a text that holds nothing visible. -/
def isBlankText : Node → Bool
  | .text s _ => isBlankRun s
  | _ => false

/-- Whether two children of a flow meet in blank texts, the first of which holds some space. -/
def blanksMeet (w w' : Node) : Bool :=
  match w.lastLeaf, w'.firstLeaf with
  | .ok l, .ok r => isBlankText l && !l.textContent.isEmpty && isBlankText r
  | _, _ => false

mutual

/-- Whether somewhere in a tree two children of a flow meet in blank texts, the first of which holds
some space. -/
def hasBlanksMeeting : Node → Bool
  | .group _ cs _ => hasBlanksMeetingEach cs
  | .flow _ cs _ => hasBlanksMeetingRow cs
  | _ => false

def hasBlanksMeetingEach : List Node → Bool
  | [] => false
  | c :: cs => hasBlanksMeeting c || hasBlanksMeetingEach cs

def hasBlanksMeetingRow : List Node → Bool
  | [] => false
  | [w] => hasBlanksMeeting w
  | w :: w' :: ws => hasBlanksMeeting w || blanksMeet w w' || hasBlanksMeetingRow (w' :: ws)

end

theorem blanksMeet_iff (hl : w.lastLeaf = .ok (.text l m)) (hr : w'.firstLeaf = .ok (.text r m'))
    : blanksMeet w w' = true ↔ isBlankRun l = true ∧ l ≠ [] ∧ isBlankRun r = true := by
  rw [blanksMeet, hl, hr]
  simp [isBlankText, Node.textContent, and_assoc]

theorem texts_of_blanksMeet (h : blanksMeet w w' = true)
    : ∃ l m r m', w.lastLeaf = .ok (.text l m) ∧ w'.firstLeaf = .ok (.text r m') := by
  unfold blanksMeet at h
  split at h
  · next l r hl hr =>
      cases l <;> simp only [isBlankText, Bool.false_and, Bool.false_eq_true] at h
      cases r <;> simp only [Bool.and_false, Bool.false_eq_true] at h
      exact ⟨_, _, _, _, hl, hr⟩
  · cases h

theorem EndChange.isBlankText (h : EndChange n d)
    : isBlankText d = isBlankText n := by
  cases h with
  | same => rfl
  | @visible a c z z' m _ hc => exact (isBlankRun_parts a hc z').trans (isBlankRun_parts a hc z).symm
  | blank hs wide => exact (isBlankRun_gap wide).trans hs.symm

/-- Whether blank texts meet does not depend on what is in the second one. -/
theorem blanksMeet_congr (starts : Found EndChange right.firstLeaf d.firstLeaf)
    : blanksMeet w d = blanksMeet w right := by
  unfold blanksMeet
  generalize right.firstLeaf = x at starts
  generalize d.firstLeaf = y at starts
  cases starts with
  | deadEnd => rfl
  | leaf change =>
      cases w.lastLeaf with
      | error => rfl
      | ok l => exact congrArg (_ && ·) change.isBlankText

mutual

/-- A tree around a single leaf has no boundaries. -/
theorem hasBlanksMeeting_of_isLone (n : Node) (h : n.isLone = true)
    : hasBlanksMeeting n = false := by
  cases n with
  | group form cs m => exact hasBlanksMeetingOf_of_isLone cs h |>.1
  | flow form cs m => exact hasBlanksMeetingOf_of_isLone cs h |>.2
  | text | math | code | note | inert => rfl
termination_by sizeOf n

theorem hasBlanksMeetingOf_of_isLone (cs : List Node) (h : Node.isLoneOf cs = true)
    : hasBlanksMeetingEach cs = false ∧ hasBlanksMeetingRow cs = false := by
  match cs with
  | [] => cases h
  | [c] =>
      have inner := hasBlanksMeeting_of_isLone c h
      exact ⟨by rw [hasBlanksMeetingEach, inner]; rfl, inner⟩
  | _ :: _ :: _ => cases h
termination_by sizeOf cs

end

-----------------------------------------------------------------------------------------
-- Calm boundaries
-----------------------------------------------------------------------------------------

/-- Only an only leaf before a visible text may have got its space back. -/
theorem CalmSeam.emptied (h : CalmSeam arrived w w' onward)
    (inner : w.isLone = false ∨ ∃ r, w'.firstLeaf = .ok r ∧ isBlankText r = true)
    : Emptied arrived w := by
  cases h with
  | afterBlank hl hr narrow vr started wanted emptied =>
      rcases inner with more | ⟨r, found, blank⟩
      · exact emptied.resolve_left (by rw [more]; nofun)
      · obtain rfl := Except.ok.inj (hr.symm.trans found)
        rw [isBlankText, vr] at blank
        cases blank
  | visible | beforeBlank | blanks | beforeToken | afterToken | apart => assumption

/-- Wherever the table has been asked about a calm boundary, it has decided against a space. -/
theorem CalmSeam.tight {space : Bool} (h : CalmSeam arrived w w' onward)
    (exact : ExactSeam w w' left space right)
    : space = false := by
  cases h with
  | visible hl hr vl vr ended started tight =>
      obtain ⟨-, -, decided⟩ := exact.texts hl hr vl vr
      rw [decided, trimRight_of_trail vl ended, trimLeft_of_lead vr started,
        endsBlank_of_trail vl ended, startsBlank_of_lead vr started]
      exact tight
  | beforeBlank hl hr vl narrow =>
      exact exact.otherwise hl hr (by simp [isVisibleText, narrow.isBlankRun])
  | afterBlank hl hr narrow =>
      exact exact.otherwise hl hr (by simp [isVisibleText, narrow.isBlankRun])
  | blanks hl hr blank => exact exact.otherwise hl hr (by simp [isVisibleText, blank])
  | beforeToken hl hr token =>
      exact exact.otherwise hl hr (by rw [isVisibleText_of_isToken token, Bool.and_false])
  | afterToken hl hr token =>
      exact exact.otherwise hl hr (by rw [isVisibleText_of_isToken token, Bool.false_and])
  | apart hl hr apart =>
      refine exact.otherwise hl hr (Bool.eq_false_iff.mpr fun visible => apart.unspaced.1 ?_)
      obtain ⟨visibleLeft, visibleRight⟩ := Bool.and_eq_true_iff.mp visible
      exact ⟨visibleLeft, .inl visibleRight⟩

-----------------------------------------------------------------------------------------
-- The second run succeeds
-----------------------------------------------------------------------------------------

mutual

/-- Nothing stops the work on a calm tree, and no space is put in. -/
theorem formatNode_quiet (n : Node) (calm : Calm options n)
    : (formatNode .standard options n).fault = none
      ∧ (formatNode .standard options n).splices = [] := by
  cases calm with
  | group each => exact formatEach_quiet _ each
  | @flow form cs m row =>
      cases cs with
      | nil => exact ⟨rfl, rfl⟩
      | cons c cs =>
          obtain ⟨fault, splices⟩ := formatNode_quiet c row.head
          have rest := formatRest_quiet form.kind .empty (formatNode_exact c fault).ends cs row
          simp only [formatNode, Run.map, formatFlow, fault, splices, rest, List.nil_append,
            and_self]
  | leaf single fixed =>
      rw [fixed]
      exact ⟨rfl, rfl⟩
termination_by sizeOf n

theorem formatEach_quiet (cs : List Node) (each : CalmEach options cs)
    : (formatEach .standard options cs).fault = none
      ∧ (formatEach .standard options cs).splices = [] := by
  cases each with
  | nil => exact ⟨rfl, rfl⟩
  | cons head tail =>
      obtain ⟨fault, splices⟩ := formatNode_quiet _ head
      simp only [formatEach, fault, splices, formatEach_quiet _ tail, List.nil_append, and_self]
termination_by sizeOf cs

theorem formatRest_quiet (kind : Kind) (carry : Carry) {arrived : Option (Option Char)}
    {w x : Node} (ends : Stays trail w.lastLeaf x.lastLeaf) (ws : List Node)
    (row : CalmRow options arrived (w :: ws))
    : (formatRest .standard options kind carry x ws).fault = none
      ∧ (formatRest .standard options kind carry x ws).splices = [] := by
  cases row with
  | last => exact ⟨rfl, rfl⟩
  | @cons _ _ _ w' ws _ joint rest =>
      obtain ⟨fault, splices⟩ := formatNode_quiet w' rest.head
      have next := formatNode_exact w' fault
      obtain ⟨⟨l, hl⟩, r, hr⟩ := joint.leaves
      obtain ⟨_, hx, -⟩ := ends.ok hl
      obtain ⟨_, hy, -⟩ := next.starts.ok hr
      obtain ⟨b, resolved⟩ := resolve_succeeds carry hx hy
      have tight := joint.tight (resolve_exact ends next.starts resolved)
      obtain ⟨-, start⟩ := resolve_edits resolved
      have tail := formatRest_quiet kind b.carry (next.ends.trans start.stays) ws rest
      simp only [formatRest, fault, splices, resolved, tight, tail, Bool.false_eq_true, if_false,
        List.append_nil, and_self]
termination_by sizeOf ws

end

-----------------------------------------------------------------------------------------
-- What the second run carries
-----------------------------------------------------------------------------------------

/-- The work on a calm row has reached a child. Nothing is owed, and the child is as it was; or its
space has been taken away behind a text, and is owed. -/
inductive Owing (arrived : Option (Option Char)) (w : Node) : Bool → Node → Prop
  | nothing : Owing arrived w false w
  | space {c : Option Char} {m : Mapping} (behind : arrived = some c)
      (starts : w.firstLeaf = .ok (.text [' '] m))
      : Owing arrived w true (w.mapFirstLeaf (Node.withText []))

/-- What the second run hands on to a child of a calm row. -/
structure Returned (arrived : Option (Option Char)) (w : Node) (carry : Carry) (x : Node) : Prop where
  seen : carry.seen.getLast? = arrived.join
  owing : Owing arrived w carry.owed x

theorem returned_empty (w : Node)
    : Returned none w .empty w where
  seen := rfl
  owing := .nothing

/-- At the end of a row the space is written back. -/
theorem Owing.repay {owed : Bool} (h : Owing arrived w owed x)
    : repay owed x = w := by
  cases h with
  | nothing => rfl
  | space behind starts =>
      rw [Spacing.repay, if_pos rfl,
        Node.mapFirstLeaf_mapFirstLeaf (Node.textChange_withText []).leafMap]
      exact Node.mapFirstLeaf_eq_self w starts rfl

theorem Owing.of_emptied {owed : Bool} (h : Owing arrived w owed x) (emptied : Emptied arrived w)
    : owed = false ∧ x = w := by
  cases h with
  | nothing => exact ⟨rfl, rfl⟩
  | space behind starts => exact nomatch emptied _ _ _ behind starts rfl

/-- Behind a text, a child that starts with a blank text has its space taken away. -/
theorem Returned.behind_blank {c : Option Char} {seen : Chars} {owed : Bool}
    (hr : w.firstLeaf = .ok (.text r m)) (narrow : Narrow r) (sight : seen.getLast? = c)
    (carried : owed = !r.isEmpty)
    : Returned (some c) w ⟨owed, seen⟩ (w.mapFirstLeaf (Node.withText [])) where
  seen := sight
  owing := by
    obtain ⟨wide, rfl⟩ := narrow
    rw [isEmpty_gap, Bool.not_not] at carried
    subst carried
    cases owed with
    | false =>
        rw [Node.mapFirstLeaf_eq_self w hr rfl]
        exact .nothing
    | true => exact .space rfl hr

/-- Behind a text, a child that starts with a trimmed text stays as it is. -/
theorem Returned.behind_visible {c : Option Char} {seen : Chars} (sight : seen.getLast? = c)
    : Returned (some c) w ⟨false, seen⟩ w where
  seen := sight
  owing := .nothing

section AfterBlank

variable {seen : Chars}

theorem keepsBlank_of_wanted {owed : Bool} (sight : seen.getLast? = arrived.join)
    (wanted : spaceAt (inSight arrived w) r.head? true = true)
    : keepsBlank ⟨owed, seen⟩ w r = true := by
  rw [keepsBlank, spaceBetween_eq, getLast?_handedOn sight w, wanted]

/-- A blank text before a visible one keeps the space it has, since one is wanted. -/
theorem resolve_kept (sight : seen.getLast? = arrived.join) (hl : w.lastLeaf = .ok (.text l m))
    (hr : w'.firstLeaf = .ok (.text r m')) (narrow : Narrow l) (vr : isBlankRun r = false)
    (started : lead r = []) (wanted : l = [' '] → spaceAt (inSight arrived w) r.head? true = true)
    : resolve .standard ⟨false, seen⟩ w w'
      = .ok ⟨w, w', false, ⟨false, handedOn ⟨false, seen⟩ w⟩⟩ := by
  rw [resolve_after_blank hl hr narrow.isBlankRun vr, trimLeft_of_lead vr started,
    startsBlank_of_lead vr started, Node.mapFirstLeaf_eq_self w' hr rfl]
  have same : gap ((endsBlank l || false || false) && keepsBlank ⟨false, seen⟩ w r) = l := by
    obtain ⟨wide, rfl⟩ := narrow
    rw [endsBlank_of_blank (isBlankRun_gap wide), isEmpty_gap]
    cases wide with
    | false => rfl
    | true =>
        rw [keepsBlank_of_wanted sight (wanted rfl)]
        rfl
  rw [same, Node.mapLastLeaf_eq_self w hl rfl]

/-- An only leaf gets the space back that has been taken from it. -/
theorem resolve_refilled (lone : w.isLone = true) (sight : seen.getLast? = arrived.join)
    (hl : w.lastLeaf = .ok (.text [' '] m)) (hr : w'.firstLeaf = .ok (.text r m'))
    (vr : isBlankRun r = false) (started : lead r = [])
    (wanted : spaceAt (inSight arrived w) r.head? true = true)
    : resolve .standard ⟨true, seen⟩ (w.mapFirstLeaf (Node.withText [])) w'
      = .ok ⟨w, w', false, ⟨false, handedOn ⟨true, seen⟩ w⟩⟩ := by
  have leafMap := (Node.textChange_withText []).leafMap
  obtain ⟨leaf, first, last, same⟩ := Node.exists_leaf_of_isLone w lone
  obtain rfl := Except.ok.inj (hl.symm.trans last)
  have back : (w.mapLastLeaf (Node.withText [])).mapLastLeaf (Node.withText (gap true)) = w := by
    rw [← same]
    obtain ⟨_, -, -, same'⟩ := Node.exists_leaf_of_isLone (w.mapFirstLeaf (Node.withText []))
      ((Node.isLone_mapFirstLeaf leafMap w).trans lone)
    rw [← same', Node.mapFirstLeaf_mapFirstLeaf leafMap]
    exact Node.mapFirstLeaf_eq_self w first rfl
  have handed : handedOn ⟨true, seen⟩ (w.mapLastLeaf (Node.withText []))
      = handedOn ⟨true, seen⟩ w := by
    rw [handedOn, isTextRun_mapLastLeaf, handedOn]
  have kept : keepsBlank ⟨true, seen⟩ (w.mapLastLeaf (Node.withText [])) r = true := by
    rw [keepsBlank, handed]
    exact keepsBlank_of_wanted sight wanted
  rw [same, resolve_after_blank (Node.lastLeaf_withText hl []) hr rfl vr, trimLeft_of_lead vr started,
    Node.mapFirstLeaf_eq_self w' hr rfl, handed, kept, Bool.or_true, Bool.and_true, back]

end AfterBlank

/-- A calm boundary at which no blank texts meet leaves the child before it as it was. -/
theorem resolve_fixed (joint : CalmSeam arrived w w' onward) (unmet : blanksMeet w w' = false)
    (returned : Returned arrived w carry x)
    : ∃ carry' x', resolve .standard carry x w' = .ok ⟨w, x', false, carry'⟩
        ∧ Returned onward w' carry' x' := by
  obtain ⟨owed, seen⟩ := carry
  obtain ⟨sight, owing⟩ := returned
  cases joint with
  | visible hl hr vl vr ended started tight emptied =>
      obtain ⟨rfl, rfl⟩ := owing.of_emptied emptied
      have step : resolve .standard ⟨false, seen⟩ x w' = _ := resolve_visible hl hr vl vr
      rw [trimRight_of_trail vl ended, trimLeft_of_lead vr started, endsBlank_of_trail vl ended,
        startsBlank_of_lead vr started, spaceBetween_eq, Bool.or_false, tight,
        Node.mapLastLeaf_eq_self x hl rfl, Node.mapFirstLeaf_eq_self w' hr rfl] at step
      exact ⟨_, _, step, .behind_visible rfl⟩
  | beforeBlank hl hr vl narrow ended emptied =>
      obtain ⟨rfl, rfl⟩ := owing.of_emptied emptied
      have step : resolve .standard ⟨false, seen⟩ x w' = _ :=
        resolve_before_blank hl hr vl narrow.isBlankRun
      rw [trimRight_of_trail vl ended, endsBlank_of_trail vl ended, Bool.false_or,
        startsBlank_of_blank narrow.isBlankRun, Node.mapLastLeaf_eq_self x hl rfl] at step
      exact ⟨_, _, step, .behind_blank hr narrow rfl rfl⟩
  | afterBlank hl hr narrow vr started wanted emptied =>
      cases owing with
      | nothing =>
          exact ⟨_, _, resolve_kept sight hl hr narrow vr started wanted,
            .behind_visible (getLast?_handedOn sight w)⟩
      | space behind starts =>
          -- The space has been taken from the very leaf that the boundary looks at.
          have lone := emptied.resolve_right fun emptied => nomatch emptied _ _ _ behind starts rfl
          obtain ⟨_, first, last, -⟩ := Node.exists_leaf_of_isLone w lone
          obtain rfl := Except.ok.inj (starts.symm.trans first)
          obtain ⟨rfl, rfl⟩ : [' '] = _ ∧ _ := by simpa using last.symm.trans hl
          exact ⟨_, _, resolve_refilled lone sight hl hr vr started (wanted rfl),
            .behind_visible (getLast?_handedOn sight w)⟩
  | @blanks l r _ _ hl hr blank narrow emptied =>
      obtain ⟨rfl, rfl⟩ := owing.of_emptied emptied
      -- A space on the left would go on to the right, and that is excluded.
      have empty : l = [] := by
        by_contra filled
        rw [(blanksMeet_iff hl hr).mpr ⟨blank, filled, narrow.isBlankRun⟩] at unmet
        cases unmet
      subst empty
      have step : resolve .standard ⟨false, seen⟩ x w' = _ :=
        resolve_blank hl hr rfl narrow.isBlankRun
      rw [startsBlank_of_blank narrow.isBlankRun, Node.mapLastLeaf_eq_self x hl rfl] at step
      exact ⟨_, _, step, .behind_blank hr narrow (getLast?_handedOn sight x) (Bool.or_false _)⟩
  | beforeToken hl hr token spaced emptied =>
      obtain ⟨rfl, rfl⟩ := owing.of_emptied emptied
      have step : resolve .standard ⟨false, seen⟩ x w' = _ := resolve_text_token hl hr token
      rw [spaced, Node.mapLastLeaf_eq_self x hl rfl] at step
      exact ⟨_, _, step, returned_empty w'⟩
  | afterToken hl hr token spaced emptied =>
      obtain ⟨rfl, rfl⟩ := owing.of_emptied emptied
      have step : resolve .standard ⟨false, seen⟩ x w' = _ := resolve_token_text hl hr token
      rw [spaced, Node.mapFirstLeaf_eq_self w' hr rfl] at step
      exact ⟨_, _, step, returned_empty w'⟩
  | apart hl hr apart emptied =>
      obtain ⟨rfl, rfl⟩ := owing.of_emptied emptied
      exact ⟨_, _, resolve_apart hl hr apart, returned_empty w'⟩

end MixedScript.Spacing
