import MixedScript.Proofs.Spacing.Alignment
import MixedScript.Proofs.Spacing.Trim
import Mathlib.Tactic.IntervalCases

/-! The usual rules move nothing but whitespace. However far the work on a tree comes, every text
still holds its visible characters and every math source its characters that are not blank, and the
only new leaves are single spaces. -/

namespace MixedScript.Spacing

/-- The characters of a text that are neither spaces nor tabs. -/
def visible (s : Chars) : Chars :=
  s.filter (fun c => !Text.isInlineBlank c)

/-- The characters of math source that are not blank. -/
def dense (s : Chars) : Chars :=
  s.filter (fun c => !Text.isBlank c)

variable {l r s t : Chars}

-----------------------------------------------------------------------------------------
-- Texts
-----------------------------------------------------------------------------------------

theorem visible_append (s t : Chars)
    : visible (s ++ t) = visible s ++ visible t :=
  List.filter_append _ _

theorem visible_eq_nil
    : visible s = [] ↔ isBlankRun s = true := by
  simp [visible, isBlankRun_iff]

/-- Either a run is blank and trimming empties it, or trimming leaves its visible characters. -/
theorem visible_trimRight (s : Chars)
    : visible (trimRight s) = visible s := by
  cases blank : isBlankRun s with
  | true => rw [trimRight_eq_nil.mpr blank, visible_eq_nil.mpr blank]; rfl
  | false =>
      obtain ⟨a, c, z, rfl, ha, hc, hz⟩ := exists_core blank
      rw [trimRight_parts a hc hz]
      simp only [visible_append, visible_eq_nil.mpr hz, List.append_nil]

theorem visible_trimLeft (s : Chars)
    : visible (trimLeft s) = visible s := by
  cases blank : isBlankRun s with
  | true => rw [trimLeft_eq_nil.mpr blank, visible_eq_nil.mpr blank]; rfl
  | false =>
      obtain ⟨a, c, z, rfl, ha, hc, hz⟩ := exists_core blank
      rw [trimLeft_parts ha hc z]
      simp only [visible_append, visible_eq_nil.mpr ha, List.nil_append]

/-- What fills a gap is as invisible as the gap. -/
theorem visible_tidyGap {classOf : Char → CharClass} {wants : Char → Char → Bool → Bool}
    {a b : Char}
    {g : Chars} (blank : isBlankRun g = true)
    : visible (tidyGap classOf wants a g b) = [] := by
  unfold tidyGap
  split
  · split <;> rfl
  · exact visible_eq_nil.mpr blank

theorem visible_tidyFrom {classOf : Char → CharClass} {wants : Char → Char → Bool → Bool}
    (before : Option Char) (g s : Chars) (blank : isBlankRun g = true)
    : visible (tidyFrom classOf wants before g s) = visible s := by
  induction s generalizing before g with
  | nil => rw [tidyFrom, visible_eq_nil.mpr blank]; rfl
  | cons c rest ih =>
      unfold tidyFrom
      split
      · next inGap =>
          have longer : isBlankRun (g ++ [c]) = true := by simp_all [isBlankRun]
          rw [ih before (g ++ [c]) longer]
          simp [visible, inGap]
      · have joined : ∀ u v, visible u = [] → visible v = visible rest →
            visible (u ++ c :: v) = visible (c :: rest) := by
          intro u v hu hv
          rw [visible_append, hu, ← List.singleton_append, visible_append, hv]
          exact (visible_append [c] rest).symm
        split
        · refine joined _ _ ?_ (ih (some c) [] rfl)
          split
          · exact visible_tidyGap blank
          · exact visible_eq_nil.mpr blank
        · exact joined _ _ (visible_eq_nil.mpr blank) (ih none [] rfl)

/-- A tidied text holds what was visible in it. -/
theorem visible_tidyText {classOf : Char → CharClass} {wants : Char → Char → Bool → Bool}
    (s : Chars)
    : visible (tidyText classOf wants s) = visible s :=
  visible_tidyFrom none [] s rfl

/-- Joined runs hold what was visible in them. -/
theorem visible_joinRuns {Space : Type} {wants : Chars → Chars → Bool → Space} {no : Space}
    {owed : Bool}
    : visible (joinRuns wants no l r owed).left = visible l
      ∧ visible (joinRuns wants no l r owed).right = visible r := by
  have emptied : ∀ {u v : Chars}, visible u = visible v → u.isEmpty = true → visible v = [] := by
    intro u v same empty
    rw [← same, List.isEmpty_iff.mp empty]
    rfl
  have left := visible_trimRight l
  have right := visible_trimLeft r
  simp only [joinRuns]
  split
  · exact ⟨left, right⟩
  · next hr => exact ⟨left, (emptied right hr).symm⟩
  · next hl _ =>
      refine ⟨?_, right⟩
      rw [emptied left hl]
      split <;> rfl
  · next hl hr => exact ⟨(emptied left hl).symm, (emptied right hr).symm⟩

-----------------------------------------------------------------------------------------
-- Math
-----------------------------------------------------------------------------------------

theorem dense_append (s t : Chars)
    : dense (s ++ t) = dense s ++ dense t :=
  List.filter_append _ _

theorem exists_range_of_inRanges {ranges : List (Nat × Nat)} {n : Nat}
    (h : Text.inRanges ranges n = true)
    : ∃ range ∈ ranges, range.1 ≤ n ∧ n ≤ range.2 := by
  induction ranges with
  | nil => simp [Text.inRanges] at h
  | cons range ranges ih =>
      obtain ⟨low, high⟩ := range
      unfold Text.inRanges at h
      split at h
      · contradiction
      · next above =>
          split at h
          · next below => exact ⟨(low, high), by simp, Nat.le_of_not_lt above, below⟩
          · obtain ⟨found, mem, bounds⟩ := ih h
            exact ⟨found, List.mem_cons_of_mem _ mem, bounds⟩

/-- What ends a line is blank. -/
theorem isBlank_of_isLineBoundary {c : Char} (h : Text.isLineBoundary c = true)
    : Text.isBlank c = true := by
  obtain ⟨range, mem, low, high⟩ := exists_range_of_inRanges h
  unfold Text.isBlank
  simp only [List.mem_cons, List.not_mem_nil, or_false] at mem
  rcases mem with rfl | rfl | rfl | rfl
  all_goals
    dsimp only at low high
    interval_cases c.toNat <;> rfl

theorem dense_dropWhile (s : Chars)
    : dense (s.dropWhile Text.isBlank) = dense s := by
  have dropped : dense (s.takeWhile Text.isBlank) = [] := by
    simp only [dense, List.filter_eq_nil_iff, Bool.not_eq_true', Bool.not_eq_false]
    exact fun c mem => List.mem_takeWhile_imp mem
  have split := dense_append (s.takeWhile Text.isBlank) (s.dropWhile Text.isBlank)
  rw [List.takeWhile_append_dropWhile, dropped, List.nil_append] at split
  exact split.symm

theorem dense_dropEndWhile (s : Chars)
    : dense (Chars.dropEndWhile Text.isBlank s) = dense s := by
  rw [Chars.dropEndWhile_eq_rdropWhile, List.rdropWhile, dense, List.filter_reverse]
  have dropped := dense_dropWhile s.reverse
  simp only [dense, List.filter_reverse] at dropped
  rw [dropped, List.reverse_reverse]
  rfl

theorem dense_collapseFrom (inRun : Bool) (s : Chars)
    : dense (collapseFrom inRun s) = dense s := by
  have space : dense [' '] = [] := rfl
  induction s generalizing inRun with
  | nil => rfl
  | cons c rest ih =>
      rw [collapseFrom]
      split
      · next blank =>
          have dropped : dense (c :: rest) = dense rest := by
            simp [dense, isBlank_of_isInlineBlank blank]
          split
          · rw [ih, dropped]
          · rw [← List.singleton_append, dense_append, space, ih, dropped]
            rfl
      · rw [← List.singleton_append, dense_append, ih, ← dense_append]
        rfl

theorem linesWithEnds_flatten (s : Chars)
    : (Chars.linesWithEnds s).flatten = s := by
  induction s using Chars.linesWithEnds.induct with
  | case1 => rfl
  | case2 rest ih => simp [Chars.linesWithEnds, ih]
  | case3 c rest _ ends ih => simp [Chars.linesWithEnds, ends, ih]
  | case4 c rest _ goes empty ih => simp_all [Chars.linesWithEnds]
  | case5 c rest _ goes line later shape ih => simp_all [Chars.linesWithEnds]

theorem dense_boundaryLines (s : Chars)
    : (Chars.boundaryLines s).flatMap dense = dense s := by
  have unended : ∀ line : Chars,
      dense (line.filter (fun c => !Text.isLineBoundary c)) = dense line := by
    intro line
    simp only [dense, List.filter_filter]
    refine List.filter_congr (fun c _ => ?_)
    cases ends : Text.isLineBoundary c with
    | false => simp
    | true => simp [isBlank_of_isLineBoundary ends]
  have whole := congrArg dense (linesWithEnds_flatten s)
  rw [dense, List.filter_flatten] at whole
  rw [Chars.boundaryLines, List.flatMap_map, ← whole, List.flatMap_def]
  exact congrArg List.flatten (List.map_congr_left (fun line _ => unended line))

theorem dense_join (lines : List Chars)
    : dense (Chars.join ['\n'] lines) = lines.flatMap dense := by
  induction lines with
  | nil => rfl
  | cons line rest ih =>
      cases rest with
      | nil => simp [Chars.join]
      | cons next rest =>
          have lineEnd : dense ['\n'] = [] := rfl
          rw [show Chars.join ['\n'] (line :: next :: rest)
              = line ++ ['\n'] ++ Chars.join ['\n'] (next :: rest) from rfl,
            dense_append, dense_append, lineEnd, List.append_nil, ih]
          rfl

/-- Tidied math source holds what was not blank in it. -/
theorem dense_tidyMath (s : Chars)
    : dense (tidyMath s) = dense s := by
  have line : ∀ l, dense (tidyMathLine l) = dense l :=
    fun l => (dense_dropEndWhile _).trans (dense_collapseFrom false l)
  rw [tidyMath, dense_join, List.flatMap_map, funext line, dense_boundaryLines, Chars.strip,
    Chars.trim, dense_dropEndWhile, dense_dropWhile]

-----------------------------------------------------------------------------------------
-- Leaves
-----------------------------------------------------------------------------------------

/-- A leaf with nothing changed but whitespace. -/
inductive SameVisible : Node → Node → Prop
  | text {s t m} (same : visible t = visible s) : SameVisible (.text s m) (.text t m)
  | math {form s t m} (same : dense t = dense s) : SameVisible (.math form s m) (.math form t m)
  | refl {n} : SameVisible n n

theorem SameVisible.trans {a b c : Node} (h : SameVisible a b) (h' : SameVisible b c)
    : SameVisible a c := by
  cases h with
  | refl => exact h'
  | text same =>
      cases h' with
      | text same' => exact .text (same'.trans same)
      | refl => exact .text same
  | math same =>
      cases h' with
      | math same' => exact .math (same'.trans same)
      | refl => exact .math same

theorem sameVisible_repayLeaf (n : Node)
    : SameVisible n (repayLeaf n) := by
  unfold repayLeaf
  split
  · exact .text rfl
  · exact .refl

/-- No condition on the boundaries of a tree. -/
def anySeam : Seam := fun _ _ _ _ _ => True

/-- A tree with nothing changed but whitespace: single spaces may have been put between children of
flows, texts keep their visible characters, math its characters that are not blank, and every other
leaf is equal. -/
abbrev KeepsVisible : Node → Node → Prop :=
  Aligned SameVisible anySeam

/-- A row of children with nothing changed but whitespace. -/
abbrev KeepsVisibleRow : List Node → Row → Prop :=
  AlignedRow SameVisible anySeam

variable {n c d l left right : Node} {f : Node → Node}

theorem KeepsVisible.changeFirst (hf : Node.LeafMap f) (found : d.firstLeaf = .ok l)
    (same : SameVisible l (f l)) (h : KeepsVisible n d)
    : KeepsVisible n (d.mapFirstLeaf f) :=
  Aligned.changeFirst ⟨hf, fun before => before.trans same, fun _ _ => trivial⟩ found h

theorem KeepsVisible.changeLast (hf : Node.LeafMap f) (found : d.lastLeaf = .ok l)
    (same : SameVisible l (f l)) (h : KeepsVisible n d)
    : KeepsVisible n (d.mapLastLeaf f) :=
  Aligned.changeLast ⟨hf, fun before => before.trans same, fun _ _ => trivial⟩ found h

theorem KeepsVisible.repay (owed : Bool) (h : KeepsVisible n d)
    : KeepsVisible n (repay owed d) := by
  unfold Spacing.repay
  split
  · cases found : d.firstLeaf with
    | error => rwa [Node.mapFirstLeaf_of_error repayLeaf d found]
    | ok l => exact h.changeFirst textChange_repayLeaf.leafMap found (sameVisible_repayLeaf l)
  · exact h

section Reading

variable {α : Type} {read : Node → List α}

mutual

/-- What is read off the leaves one after the other stays as long as it leaves out whitespace. -/
theorem flatMap_leaves_of_keepsVisible (blind : ∀ {n d}, SameVisible n d → read d = read n)
    (unseen : read Node.space = []) {n d : Node} (h : KeepsVisible n d)
    : d.leaves.flatMap read = n.leaves.flatMap read := by
  cases h with
  | group each => exact flatMap_leaves_of_each blind unseen each
  | flow row => exact flatMap_leaves_of_row blind unseen row
  | leaf single still kept =>
      simp only [Node.leaves_of_leaf single, Node.leaves_of_leaf still, List.flatMap_singleton,
        blind kept]

theorem flatMap_leaves_of_each (blind : ∀ {n d}, SameVisible n d → read d = read n)
    (unseen : read Node.space = []) {ns ds : List Node}
    (h : AlignedEach SameVisible anySeam ns ds)
    : (Node.leavesOf ds).flatMap read = (Node.leavesOf ns).flatMap read := by
  cases h with
  | nil => rfl
  | cons head tail =>
      simp only [Node.leavesOf, List.flatMap_append]
      exact congr (congrArg _ (flatMap_leaves_of_keepsVisible blind unseen head))
        (flatMap_leaves_of_each blind unseen tail)

theorem flatMap_leaves_of_row (blind : ∀ {n d}, SameVisible n d → read d = read n)
    (unseen : read Node.space = []) {ns : List Node} {nodes : Row} (h : KeepsVisibleRow ns nodes)
    : (Node.leavesOf (weave nodes)).flatMap read = (Node.leavesOf ns).flatMap read := by
  cases h with
  | nil => rfl
  | last head =>
      simp only [weave, Node.leavesOf, List.append_nil]
      exact flatMap_leaves_of_keepsVisible blind unseen head
  | @cons n d space next d' space' ns nodes head joint tail =>
      have nothing : (if space then [Node.space] else []).flatMap read = [] := by
        cases space <;> simp [unseen]
      rw [leavesOf_weave_cons, Node.leavesOf, List.flatMap_append, List.flatMap_append,
        List.flatMap_append, nothing, List.nil_append]
      exact congr (congrArg _ (flatMap_leaves_of_keepsVisible blind unseen head))
        (flatMap_leaves_of_row blind unseen tail)

end

end Reading

-----------------------------------------------------------------------------------------
-- Boundaries
-----------------------------------------------------------------------------------------

variable {carry : Carry} {b : Resolved}

theorem visible_visiblePart (s : Chars)
    : visible (visiblePart s) = visible s :=
  (visible_trimRight (trimLeft s)).trans (visible_trimLeft s)

/-- A left run that is not kept held nothing visible. -/
theorem visible_leftText {rules : Rules} {j : Boundary Bool} {kept : Bool}
    (decided : keepsLeft rules carry left j = .ok kept)
    : visible (if kept then j.left else []) = visible j.left := by
  cases kept with
  | true => rfl
  | false =>
      unfold keepsLeft at decided
      split at decided
      · next repeats =>
          simp only [repeatsCarried, Bool.and_eq_true, List.isEmpty_iff] at repeats
          rw [← visible_visiblePart j.left, repeats.1.1.1.2]
          rfl
      · simp at decided

theorem visible_spaceBeforeToken {rules : Rules} (h : spaceBeforeToken rules s = .ok t)
    : visible t = visible s := by
  obtain ⟨wide, -, h⟩ := bind_eq_ok.mp h
  obtain rfl := Except.ok.inj h
  cases wide with
  | true => exact (visible_append _ _).trans ((List.append_nil _).trans (visible_trimRight s))
  | false => exact visible_trimRight s

theorem visible_spaceAfterToken {rules : Rules} (h : spaceAfterToken rules s = .ok t)
    : visible t = visible s := by
  obtain ⟨wide, -, h⟩ := bind_eq_ok.mp h
  obtain rfl := Except.ok.inj h
  cases wide with
  | true => exact visible_trimLeft s
  | false => exact visible_trimLeft s

/-- A boundary changes nothing but whitespace on either side. -/
theorem KeepsVisible.resolve (hl : KeepsVisible n left) (hr : KeepsVisible c right)
    (h : Spacing.resolve .standard carry left right = .ok b)
    : KeepsVisible n b.left ∧ KeepsVisible c b.right := by
  have leafMap := fun s => (Node.textChange_withText s).leafMap
  cases resolves_of_ok h with
  | @texts l r m m' j kept foundLeft foundRight joined decided =>
      rw [join_standard] at joined
      obtain rfl := Except.ok.inj joined
      obtain ⟨sameLeft, sameRight⟩ :=
        @visible_joinRuns l r _ (spaceBetween classify) false carry.owed
      exact ⟨hl.changeLast (leafMap _) foundLeft
        (.text ((visible_leftText decided).trans sameLeft)),
        hr.changeFirst (leafMap _) foundRight (.text sameRight)⟩
  | beforeToken foundLeft _ _ spaced =>
      exact ⟨hl.changeLast (leafMap _) foundLeft (.text (visible_spaceBeforeToken spaced)), hr⟩
  | afterToken _ foundRight _ spaced =>
      exact ⟨hl, hr.changeFirst (leafMap _) foundRight (.text (visible_spaceAfterToken spaced))⟩
  | apart => exact ⟨hl, hr⟩

-----------------------------------------------------------------------------------------
-- Trees
-----------------------------------------------------------------------------------------

mutual

theorem KeepsVisible.refl (n : Node)
    : KeepsVisible n n := by
  cases n with
  | group form cs m => exact .group (KeepsVisible.reflEach cs)
  | flow form cs m =>
      have row := @Aligned.flow _ _ form _ _ m (KeepsVisible.reflRow cs)
      rwa [weave_untouched] at row
  | text | math | code | note | inert => exact .leaf rfl rfl .refl
termination_by sizeOf n

theorem KeepsVisible.reflEach (cs : List Node)
    : AlignedEach SameVisible anySeam cs cs := by
  cases cs with
  | nil => exact .nil
  | cons c cs => exact .cons (KeepsVisible.refl c) (KeepsVisible.reflEach cs)
termination_by sizeOf cs

theorem KeepsVisible.reflRow (cs : List Node)
    : KeepsVisibleRow cs (cs.map (fun c => (c, false))) := by
  match cs with
  | [] => exact .nil
  | [c] => exact .last (KeepsVisible.refl c)
  | c :: next :: cs => exact .cons (KeepsVisible.refl c) trivial (KeepsVisible.reflRow (next :: cs))
termination_by sizeOf cs

end

/-- A row goes on from a child before it. -/
theorem KeepsVisibleRow.after {cs : List Node} {nodes : Row} {space : Bool}
    (h : KeepsVisibleRow (c :: cs) nodes) (head : KeepsVisible n d)
    : KeepsVisibleRow (n :: c :: cs) ((d, space) :: nodes) := by
  match h with
  | .last last => exact .cons head trivial (.last last)
  | .cons next _ tail => exact .cons head trivial (.cons next trivial tail)

/-- Children that the work has not come to stay as they are. -/
theorem KeepsVisible.untouched (h : KeepsVisible c d) (cs : List Node)
    : KeepsVisibleRow (c :: cs) ((d, false) :: cs.map (fun c => (c, false))) := by
  cases cs with
  | nil => exact .last h
  | cons next cs => exact .cons h trivial (KeepsVisible.reflRow (next :: cs))

/-- A row that loses its spaces keeps what is visible. -/
theorem KeepsVisibleRow.unspaced {cs : List Node} {nodes : Row} (h : KeepsVisibleRow cs nodes)
    : KeepsVisibleRow cs (unspaced nodes) := by
  match h with
  | .nil => exact .nil
  | .last head => exact .last head
  | .cons head _ tail => exact .cons head trivial (KeepsVisibleRow.unspaced tail)

mutual

/-- However far it comes, spacing by the usual rules keeps what is visible. By induction on the
tree; the row of a flow carries along that the child before has kept it. -/
theorem formatNode_keepsVisible (options : SpacingOptions) (n : Node)
    : KeepsVisible n (formatNode .standard options n).result := by
  cases n with
  | group form cs m => exact .group (formatEach_keepsVisible options cs)
  | flow form cs m =>
      obtain ⟨nodes, woven, row⟩ := formatFlow_keepsVisible options form.kind cs
      rw [formatNode, Run.map, woven]
      exact .flow row
  | text s m =>
      simp only [formatNode]
      split
      · exact .leaf rfl rfl (.text (visible_tidyText s))
      · exact .refl _
  | math form s m =>
      simp only [formatNode]
      split
      · exact .leaf rfl rfl (.math (dense_tidyMath s))
      · exact .refl _
  | code | note | inert => exact .refl _
termination_by sizeOf n

theorem formatEach_keepsVisible (options : SpacingOptions) (cs : List Node)
    : AlignedEach SameVisible anySeam cs (formatEach .standard options cs).result := by
  cases cs with
  | nil => exact .nil
  | cons c cs =>
      have head := formatNode_keepsVisible options c
      have tail := formatEach_keepsVisible options cs
      cases stopped : (formatNode .standard options c).fault with
      | some f =>
          simp only [formatEach, stopped]
          exact .cons head (KeepsVisible.reflEach cs)
      | none =>
          simp only [formatEach, stopped]
          exact .cons head tail
termination_by sizeOf cs

theorem formatFlow_keepsVisible (options : SpacingOptions) (kind : Kind) (cs : List Node)
    : ∃ nodes,
        (formatFlow .standard options kind cs).result = weave nodes ∧ KeepsVisibleRow cs nodes := by
  cases cs with
  | nil => exact ⟨[], rfl, .nil⟩
  | cons c cs =>
      have head := formatNode_keepsVisible options c
      cases stopped : (formatNode .standard options c).fault with
      | some f =>
          refine ⟨_, ?_, head.untouched cs⟩
          simp only [formatFlow, stopped, weave, weave_untouched]
      | none =>
          have row := formatRest_keepsVisible options kind .empty head cs
          simp only [formatFlow, stopped]
          split
          · exact ⟨_, (weave_unspaced _).symm, row.unspaced⟩
          · exact ⟨_, rfl, row⟩
termination_by sizeOf cs

theorem formatRest_keepsVisible (options : SpacingOptions) (kind : Kind) (carry : Carry)
    {source before : Node} (hb : KeepsVisible source before) (cs : List Node)
    : KeepsVisibleRow (source :: cs) (formatRest .standard options kind carry before cs).result := by
  cases cs with
  | nil => exact .last (hb.repay carry.owed)
  | cons c cs =>
      have head := formatNode_keepsVisible options c
      have stop : KeepsVisibleRow (source :: c :: cs)
          ((before, false) :: ((formatNode .standard options c).result, false)
            :: cs.map (fun c => (c, false))) :=
        .cons hb trivial (head.untouched cs)
      cases stopped : (formatNode .standard options c).fault with
      | some f =>
          simp only [formatRest, stopped]
          exact stop
      | none =>
          cases resolved :
            resolve .standard carry before (formatNode .standard options c).result with
          | error f =>
              simp only [formatRest, stopped, resolved]
              exact stop
          | ok b =>
              obtain ⟨left, right⟩ := hb.resolve head resolved
              have row := formatRest_keepsVisible options kind b.carry right cs
              simp only [formatRest, stopped, resolved]
              exact row.after left
termination_by sizeOf cs

end

/-- Spacing by the usual rules, whether it ends or is stopped on the way, moves nothing but
whitespace: every text keeps its visible characters in their order, all math keeps its characters
that are not blank, and each new node is a single space between two children of a flow. -/
theorem format_moves_only_whitespace (options : SpacingOptions) (tree : Node)
    : Aligned SameVisible anySeam tree (format .standard options tree).result :=
  formatNode_keepsVisible options tree

end MixedScript.Spacing
