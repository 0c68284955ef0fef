import MixedScript.Document.Leaf

/-! The leaves at the two edges of a tree: where a descent arrives, and what a change there does to
the leaves in document order. -/

namespace MixedScript.Node

/-- A change that turns leaves into leaves. -/
def LeafMap (f : Node → Node) : Prop :=
  ∀ n, n.isContainer = false → (f n).isContainer = false

/-- A change that gives texts other content and leaves every other leaf as it is. -/
structure TextChange (f : Node → Node) : Prop where
  text : ∀ s m, ∃ t, f (.text s m) = .text t m
  other : ∀ n, n.isContainer = false → (∀ s m, n ≠ .text s m) → f n = n

theorem TextChange.leafMap {f : Node → Node} (h : TextChange f)
    : LeafMap f := by
  intro n leaf
  cases n with
  | text s m =>
      obtain ⟨t, changed⟩ := h.text s m
      rw [changed]
      rfl
  | group | flow => simp [isContainer] at leaf
  | math | code | note | inert =>
      rw [h.other _ leaf (by simp)]
      rfl

theorem textChange_withText (s : Chars)
    : TextChange (withText s) where
  text _ _ := ⟨s, rfl⟩
  other n _ h := by cases n <;> simp_all [withText]

/-- A node that is no container is its own only leaf. -/
theorem leaves_of_leaf {n : Node} (h : n.isContainer = false)
    : n.leaves = [n] := by
  cases n <;> simp_all [isContainer, leaves]

theorem firstLeaf_of_leaf {n : Node} (h : n.isContainer = false)
    : n.firstLeaf = .ok n := by
  cases n <;> simp_all [isContainer, firstLeaf]

theorem lastLeaf_of_leaf {n : Node} (h : n.isContainer = false)
    : n.lastLeaf = .ok n := by
  cases n <;> simp_all [isContainer, lastLeaf]

theorem mapFirstLeaf_of_leaf (f : Node → Node) {n : Node} (h : n.isContainer = false)
    : n.mapFirstLeaf f = f n := by
  cases n <;> simp_all [isContainer, mapFirstLeaf]

theorem mapLastLeaf_of_leaf (f : Node → Node) {n : Node} (h : n.isContainer = false)
    : n.mapLastLeaf f = f n := by
  cases n <;> simp_all [isContainer, mapLastLeaf]

/-- What a descent and a change at its end say about a leaf that is reached at once. -/
theorem firstLeaf_change_of_leaf {f : Node → Node} (hf : LeafMap f) {n l : Node}
    (leaf : n.isContainer = false) (h : n.firstLeaf = .ok l)
    : ∃ rest,
        n.leaves = l :: rest
        ∧ (n.mapFirstLeaf f).leaves = f l :: rest
        ∧ (n.mapFirstLeaf f).firstLeaf = .ok (f l) := by
  rw [firstLeaf_of_leaf leaf, Except.ok.injEq] at h
  subst h
  refine ⟨[], leaves_of_leaf leaf, ?_, ?_⟩
  · rw [mapFirstLeaf_of_leaf f leaf, leaves_of_leaf (hf n leaf)]
  · rw [mapFirstLeaf_of_leaf f leaf, firstLeaf_of_leaf (hf n leaf)]

mutual

/-- A descent into first children arrives at the first leaf, and a change there changes that leaf
alone. -/
theorem firstLeaf_change {f : Node → Node} (hf : LeafMap f) (n : Node) {l : Node}
    (h : n.firstLeaf = .ok l)
    : ∃ rest,
        n.leaves = l :: rest
        ∧ (n.mapFirstLeaf f).leaves = f l :: rest
        ∧ (n.mapFirstLeaf f).firstLeaf = .ok (f l) := by
  cases n with
  | group form cs m =>
      simpa only [leaves, mapFirstLeaf, firstLeaf] using firstLeafOf_change hf form.kind cs h
  | flow form cs m =>
      simpa only [leaves, mapFirstLeaf, firstLeaf] using firstLeafOf_change hf form.kind cs h
  | text s m => exact firstLeaf_change_of_leaf hf rfl h
  | math form s m => exact firstLeaf_change_of_leaf hf rfl h
  | code s m => exact firstLeaf_change_of_leaf hf rfl h
  | note i cs m => exact firstLeaf_change_of_leaf hf rfl h
  | inert leaf m => exact firstLeaf_change_of_leaf hf rfl h
termination_by sizeOf n

theorem firstLeafOf_change {f : Node → Node} (hf : LeafMap f) (parent : Kind) (cs : List Node)
    {l : Node} (h : firstLeafOf parent cs = .ok l)
    : ∃ rest,
        leavesOf cs = l :: rest
        ∧ leavesOf (mapFirstLeafOf f cs) = f l :: rest
        ∧ firstLeafOf parent (mapFirstLeafOf f cs) = .ok (f l) := by
  cases cs with
  | nil => simp [firstLeafOf] at h
  | cons c cs =>
      obtain ⟨rest, leaves, changed, first⟩ := firstLeaf_change hf c h
      exact ⟨rest ++ leavesOf cs, by simp [leavesOf, leaves],
        by simp [mapFirstLeafOf, leavesOf, changed],
        by simpa [mapFirstLeafOf, firstLeafOf] using first⟩
termination_by sizeOf cs

end

mutual

/-- Where a descent into first children ends at a container without children, there is nothing to
change. -/
theorem mapFirstLeaf_of_error (f : Node → Node) (n : Node) {d : DeadEnd}
    (h : n.firstLeaf = .error d)
    : n.mapFirstLeaf f = n := by
  cases n with
  | group form cs m => rw [mapFirstLeaf, mapFirstLeafOf_of_error f form.kind cs h]
  | flow form cs m => rw [mapFirstLeaf, mapFirstLeafOf_of_error f form.kind cs h]
  | text | math | code | note | inert => simp [firstLeaf] at h
termination_by sizeOf n

theorem mapFirstLeafOf_of_error (f : Node → Node) (parent : Kind) (cs : List Node) {d : DeadEnd}
    (h : firstLeafOf parent cs = .error d)
    : mapFirstLeafOf f cs = cs := by
  cases cs with
  | nil => rfl
  | cons c cs => rw [mapFirstLeafOf, mapFirstLeaf_of_error f c h]
termination_by sizeOf cs

end

/-- What a descent and a change at its end say about a leaf that is reached at once. -/
theorem lastLeaf_change_of_leaf {f : Node → Node} (hf : LeafMap f) {n l : Node}
    (leaf : n.isContainer = false) (h : n.lastLeaf = .ok l)
    : ∃ before,
        n.leaves = before ++ [l]
        ∧ (n.mapLastLeaf f).leaves = before ++ [f l]
        ∧ (n.mapLastLeaf f).lastLeaf = .ok (f l) := by
  rw [lastLeaf_of_leaf leaf, Except.ok.injEq] at h
  subst h
  refine ⟨[], leaves_of_leaf leaf, ?_, ?_⟩
  · rw [mapLastLeaf_of_leaf f leaf, leaves_of_leaf (hf n leaf), List.nil_append]
  · rw [mapLastLeaf_of_leaf f leaf, lastLeaf_of_leaf (hf n leaf)]

mutual

/-- A descent into last children arrives at the last leaf, and a change there changes that leaf
alone. -/
theorem lastLeaf_change {f : Node → Node} (hf : LeafMap f) (n : Node) {l : Node}
    (h : n.lastLeaf = .ok l)
    : ∃ before,
        n.leaves = before ++ [l]
        ∧ (n.mapLastLeaf f).leaves = before ++ [f l]
        ∧ (n.mapLastLeaf f).lastLeaf = .ok (f l) := by
  cases n with
  | group form cs m =>
      simpa only [leaves, mapLastLeaf, lastLeaf] using lastLeafOf_change hf form.kind cs h
  | flow form cs m =>
      simpa only [leaves, mapLastLeaf, lastLeaf] using lastLeafOf_change hf form.kind cs h
  | text s m => exact lastLeaf_change_of_leaf hf rfl h
  | math form s m => exact lastLeaf_change_of_leaf hf rfl h
  | code s m => exact lastLeaf_change_of_leaf hf rfl h
  | note i cs m => exact lastLeaf_change_of_leaf hf rfl h
  | inert leaf m => exact lastLeaf_change_of_leaf hf rfl h
termination_by sizeOf n

theorem lastLeafOf_change {f : Node → Node} (hf : LeafMap f) (parent : Kind) (cs : List Node)
    {l : Node} (h : lastLeafOf parent cs = .ok l)
    : ∃ before,
        leavesOf cs = before ++ [l]
        ∧ leavesOf (mapLastLeafOf f cs) = before ++ [f l]
        ∧ lastLeafOf parent (mapLastLeafOf f cs) = .ok (f l) := by
  match cs with
  | [] => simp [lastLeafOf] at h
  | [c] =>
      obtain ⟨before, leaves, changed, last⟩ := lastLeaf_change hf c h
      exact ⟨before, by simpa [leavesOf] using leaves,
        by simpa [mapLastLeafOf, leavesOf] using changed,
        by simpa [mapLastLeafOf, lastLeafOf] using last⟩
  | c :: next :: rest =>
      obtain ⟨before, leaves, changed, last⟩ := lastLeafOf_change hf parent (next :: rest) h
      refine ⟨c.leaves ++ before, ?_, ?_, ?_⟩
      · rw [leavesOf, leaves, List.append_assoc]
      · rw [mapLastLeafOf, leavesOf, changed, List.append_assoc]
      · cases rest <;> simpa [mapLastLeafOf, lastLeafOf] using last
termination_by sizeOf cs

end

-----------------------------------------------------------------------------------------
-- What a descent finds
-----------------------------------------------------------------------------------------

section Descent

variable {n l : Node} {s : Chars} {m : Mapping}

theorem leaves_of_firstLeaf (found : n.firstLeaf = .ok l)
    : ∃ rest, n.leaves = l :: rest := by
  obtain ⟨rest, leaves, -⟩ := firstLeaf_change (fun _ leaf => leaf : LeafMap id) n found
  exact ⟨rest, leaves⟩

theorem leavesOf_of_firstLeafOf {parent : Kind} {cs : List Node}
    (found : firstLeafOf parent cs = .ok l)
    : ∃ rest, leavesOf cs = l :: rest := by
  obtain ⟨rest, leaves, -⟩ := firstLeafOf_change (fun _ leaf => leaf : LeafMap id) parent cs found
  exact ⟨rest, leaves⟩

theorem leaves_of_lastLeaf (found : n.lastLeaf = .ok l)
    : ∃ before, n.leaves = before ++ [l] := by
  obtain ⟨before, leaves, -⟩ := lastLeaf_change (fun _ leaf => leaf : LeafMap id) n found
  exact ⟨before, leaves⟩

theorem firstLeaf_withText (found : n.firstLeaf = .ok (text s m)) (t : Chars)
    : (n.mapFirstLeaf (withText t)).firstLeaf = .ok (text t m) := by
  obtain ⟨_, -, -, first⟩ := firstLeaf_change (textChange_withText t).leafMap n found
  exact first

theorem lastLeaf_withText (found : n.lastLeaf = .ok (text s m)) (t : Chars)
    : (n.mapLastLeaf (withText t)).lastLeaf = .ok (text t m) := by
  obtain ⟨_, -, -, last⟩ := lastLeaf_change (textChange_withText t).leafMap n found
  exact last

end Descent

-----------------------------------------------------------------------------------------
-- Changes at the other edge
-----------------------------------------------------------------------------------------

mutual

/-- A change at the first leaf reaches the last leaf only where both are one. -/
theorem lastLeaf_mapFirstLeaf {f : Node → Node} (hf : LeafMap f) (n : Node) {l : Node}
    (first : n.firstLeaf = .ok l)
    : (n.mapFirstLeaf f).lastLeaf = n.lastLeaf
      ∨ n.lastLeaf = .ok l ∧ (n.mapFirstLeaf f).lastLeaf = .ok (f l) := by
  cases n with
  | group form cs m => exact lastLeafOf_mapFirstLeafOf hf form.kind cs first
  | flow form cs m => exact lastLeafOf_mapFirstLeafOf hf form.kind cs first
  | text | math | code | note | inert =>
      obtain rfl := Except.ok.inj first
      exact .inr ⟨rfl, lastLeaf_of_leaf (hf _ rfl)⟩
termination_by sizeOf n

theorem lastLeafOf_mapFirstLeafOf {f : Node → Node} (hf : LeafMap f) (parent : Kind)
    (cs : List Node) {l : Node} (first : firstLeafOf parent cs = .ok l)
    : lastLeafOf parent (mapFirstLeafOf f cs) = lastLeafOf parent cs
      ∨ lastLeafOf parent cs = .ok l
        ∧ lastLeafOf parent (mapFirstLeafOf f cs) = .ok (f l) := by
  match cs with
  | [] => cases first
  | [c] => exact lastLeaf_mapFirstLeaf hf c first
  | c :: next :: rest => exact .inl rfl
termination_by sizeOf cs

end

mutual

/-- A change at the last leaf reaches the first leaf only where both are one. -/
theorem firstLeaf_mapLastLeaf {f : Node → Node} (hf : LeafMap f) (n : Node) {l : Node}
    (last : n.lastLeaf = .ok l)
    : (n.mapLastLeaf f).firstLeaf = n.firstLeaf
      ∨ n.firstLeaf = .ok l ∧ (n.mapLastLeaf f).firstLeaf = .ok (f l) := by
  cases n with
  | group form cs m => exact firstLeafOf_mapLastLeafOf hf form.kind cs last
  | flow form cs m => exact firstLeafOf_mapLastLeafOf hf form.kind cs last
  | text | math | code | note | inert =>
      obtain rfl := Except.ok.inj last
      exact .inr ⟨rfl, firstLeaf_of_leaf (hf _ rfl)⟩
termination_by sizeOf n

theorem firstLeafOf_mapLastLeafOf {f : Node → Node} (hf : LeafMap f) (parent : Kind)
    (cs : List Node) {l : Node} (last : lastLeafOf parent cs = .ok l)
    : firstLeafOf parent (mapLastLeafOf f cs) = firstLeafOf parent cs
      ∨ firstLeafOf parent cs = .ok l
        ∧ firstLeafOf parent (mapLastLeafOf f cs) = .ok (f l) := by
  match cs with
  | [] => cases last
  | [c] => exact firstLeaf_mapLastLeaf hf c last
  | c :: next :: rest => exact .inl rfl
termination_by sizeOf cs

end

-----------------------------------------------------------------------------------------
-- Trees around a single leaf
-----------------------------------------------------------------------------------------

mutual

/-- Whether a tree is a chain of containers, each with one child, around a single leaf. -/
def isLone : Node → Bool
  | group _ cs _ | flow _ cs _ => isLoneOf cs
  | _ => true

def isLoneOf : List Node → Bool
  | [c] => isLone c
  | _ => false

end

mutual

/-- The single leaf is found from either side, and there is no difference between a change at the
first leaf and one at the last. -/
theorem exists_leaf_of_isLone (n : Node) (h : n.isLone = true)
    : ∃ l, n.firstLeaf = .ok l ∧ n.lastLeaf = .ok l
        ∧ ∀ f, n.mapFirstLeaf f = n.mapLastLeaf f := by
  cases n with
  | group form cs m =>
      obtain ⟨l, first, last, same⟩ := exists_leaf_of_isLoneOf form.kind cs h
      exact ⟨l, first, last, fun f => congrArg (group form · m) (same f)⟩
  | flow form cs m =>
      obtain ⟨l, first, last, same⟩ := exists_leaf_of_isLoneOf form.kind cs h
      exact ⟨l, first, last, fun f => congrArg (flow form · m) (same f)⟩
  | text | math | code | note | inert => exact ⟨_, rfl, rfl, fun _ => rfl⟩
termination_by sizeOf n

theorem exists_leaf_of_isLoneOf (parent : Kind) (cs : List Node) (h : isLoneOf cs = true)
    : ∃ l, firstLeafOf parent cs = .ok l ∧ lastLeafOf parent cs = .ok l
        ∧ ∀ f, mapFirstLeafOf f cs = mapLastLeafOf f cs := by
  match cs with
  | [] => cases h
  | [c] =>
      obtain ⟨l, first, last, same⟩ := exists_leaf_of_isLone c h
      exact ⟨l, first, last, fun f => congrArg (fun d => [d]) (same f)⟩
  | _ :: _ :: _ => cases h
termination_by sizeOf cs

end

mutual

/-- In a tree with more leaves a change at one edge leaves the other. -/
theorem edges_apart (f : Node → Node) (n : Node) (h : n.isLone = false)
    : (n.mapFirstLeaf f).lastLeaf = n.lastLeaf ∧ (n.mapLastLeaf f).firstLeaf = n.firstLeaf := by
  cases n with
  | group form cs m => exact edges_apartOf f form.kind cs h
  | flow form cs m => exact edges_apartOf f form.kind cs h
  | text | math | code | note | inert => cases h
termination_by sizeOf n

theorem edges_apartOf (f : Node → Node) (parent : Kind) (cs : List Node) (h : isLoneOf cs = false)
    : lastLeafOf parent (mapFirstLeafOf f cs) = lastLeafOf parent cs
      ∧ firstLeafOf parent (mapLastLeafOf f cs) = firstLeafOf parent cs := by
  match cs with
  | [] => exact ⟨rfl, rfl⟩
  | [c] => exact edges_apart f c h
  | _ :: _ :: _ => exact ⟨rfl, rfl⟩
termination_by sizeOf cs

end

theorem isLone_of_leaf {n : Node} (h : n.isContainer = false)
    : n.isLone = true := by
  cases n <;> first | rfl | cases h

mutual

theorem isLone_mapFirstLeaf {f : Node → Node} (hf : LeafMap f) (n : Node)
    : (n.mapFirstLeaf f).isLone = n.isLone := by
  cases n with
  | group form cs m => exact isLoneOf_mapFirstLeafOf hf cs
  | flow form cs m => exact isLoneOf_mapFirstLeafOf hf cs
  | text | math | code | note | inert => exact isLone_of_leaf (hf _ rfl)
termination_by sizeOf n

theorem isLoneOf_mapFirstLeafOf {f : Node → Node} (hf : LeafMap f) (cs : List Node)
    : isLoneOf (mapFirstLeafOf f cs) = isLoneOf cs := by
  match cs with
  | [] => rfl
  | [c] => exact isLone_mapFirstLeaf hf c
  | _ :: _ :: _ => rfl
termination_by sizeOf cs

end

-----------------------------------------------------------------------------------------
-- Changes after changes
-----------------------------------------------------------------------------------------

mutual

theorem mapFirstLeaf_mapFirstLeaf {f : Node → Node} (hf : LeafMap f) (g : Node → Node) (n : Node)
    : (n.mapFirstLeaf f).mapFirstLeaf g = n.mapFirstLeaf (g ∘ f) := by
  cases n with
  | group form cs m => exact congrArg (group form · m) (mapFirstLeafOf_mapFirstLeafOf hf g cs)
  | flow form cs m => exact congrArg (flow form · m) (mapFirstLeafOf_mapFirstLeafOf hf g cs)
  | text | math | code | note | inert => exact mapFirstLeaf_of_leaf g (hf _ rfl)
termination_by sizeOf n

theorem mapFirstLeafOf_mapFirstLeafOf {f : Node → Node} (hf : LeafMap f) (g : Node → Node)
    (cs : List Node)
    : mapFirstLeafOf g (mapFirstLeafOf f cs) = mapFirstLeafOf (g ∘ f) cs := by
  cases cs with
  | nil => rfl
  | cons c cs => exact congrArg (· :: cs) (mapFirstLeaf_mapFirstLeaf hf g c)
termination_by sizeOf cs

end

mutual

/-- A change that leaves the first leaf as it is leaves the tree as it is. -/
theorem mapFirstLeaf_eq_self {f : Node → Node} (n : Node) {l : Node} (found : n.firstLeaf = .ok l)
    (same : f l = l)
    : n.mapFirstLeaf f = n := by
  cases n with
  | group form cs m =>
      exact congrArg (group form · m) (mapFirstLeafOf_eq_self form.kind cs found same)
  | flow form cs m =>
      exact congrArg (flow form · m) (mapFirstLeafOf_eq_self form.kind cs found same)
  | text | math | code | note | inert =>
      obtain rfl := Except.ok.inj found
      exact same
termination_by sizeOf n

theorem mapFirstLeafOf_eq_self {f : Node → Node} (parent : Kind) (cs : List Node) {l : Node}
    (found : firstLeafOf parent cs = .ok l) (same : f l = l)
    : mapFirstLeafOf f cs = cs := by
  cases cs with
  | nil => rfl
  | cons c cs => exact congrArg (· :: cs) (mapFirstLeaf_eq_self c found same)
termination_by sizeOf cs

end

mutual

theorem mapLastLeaf_eq_self {f : Node → Node} (n : Node) {l : Node} (found : n.lastLeaf = .ok l)
    (same : f l = l)
    : n.mapLastLeaf f = n := by
  cases n with
  | group form cs m =>
      exact congrArg (group form · m) (mapLastLeafOf_eq_self form.kind cs found same)
  | flow form cs m =>
      exact congrArg (flow form · m) (mapLastLeafOf_eq_self form.kind cs found same)
  | text | math | code | note | inert =>
      obtain rfl := Except.ok.inj found
      exact same
termination_by sizeOf n

theorem mapLastLeafOf_eq_self {f : Node → Node} (parent : Kind) (cs : List Node) {l : Node}
    (found : lastLeafOf parent cs = .ok l) (same : f l = l)
    : mapLastLeafOf f cs = cs := by
  match cs with
  | [] => rfl
  | [c] => exact congrArg (fun d => [d]) (mapLastLeaf_eq_self c found same)
  | c :: next :: rest =>
      exact congrArg (c :: ·) (mapLastLeafOf_eq_self parent (next :: rest) found same)
termination_by sizeOf cs

end

end MixedScript.Node
