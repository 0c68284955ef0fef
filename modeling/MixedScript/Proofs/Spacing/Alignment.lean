import MixedScript.Proofs.Spacing.Step

/-! A tree beside what has become of it, child by child. Single spaces may have been put between the
children of flows; the leaves correspond one to one, and so do the boundaries between children. -/

namespace MixedScript.Spacing

/-- What may hold of two children of a flow that follow each other: of the two as they were, of what
has become of the first, of whether a space follows it, and of what has become of the second. -/
abbrev Seam := Node → Node → Node → Bool → Node → Prop

mutual

/-- `Aligned same seam n d`: the tree `d` is the tree `n` with single spaces put between children of
its flows, with `same` between the leaves and `seam` at every boundary of a flow. -/
inductive Aligned (same : Node → Node → Prop) (seam : Seam) : Node → Node → Prop
  | group {form cs ds m} (each : AlignedEach same seam cs ds)
      : Aligned same seam (.group form cs m) (.group form ds m)
  | flow {form cs nodes m} (row : AlignedRow same seam cs nodes)
      : Aligned same seam (.flow form cs m) (.flow form (weave nodes) m)
  | leaf {n d} (single : n.isContainer = false) (still : d.isContainer = false) (kept : same n d)
      : Aligned same seam n d

/-- Children of a group: one for one. -/
inductive AlignedEach (same : Node → Node → Prop) (seam : Seam) : List Node → List Node → Prop
  | nil : AlignedEach same seam [] []
  | cons {n d ns ds} (head : Aligned same seam n d) (tail : AlignedEach same seam ns ds)
      : AlignedEach same seam (n :: ns) (d :: ds)

/-- Children of a flow: one for one, each with whether a space follows it; none follows the last. -/
inductive AlignedRow (same : Node → Node → Prop) (seam : Seam) : List Node → Row → Prop
  | nil : AlignedRow same seam [] []
  | last {n d} (head : Aligned same seam n d) : AlignedRow same seam [n] [(d, false)]
  | cons {n d space next d' space' ns nodes} (head : Aligned same seam n d)
      (joint : seam n next d space d')
      (tail : AlignedRow same seam (next :: ns) ((d', space') :: nodes))
      : AlignedRow same seam (n :: next :: ns) ((d, space) :: (d', space') :: nodes)

end


-----------------------------------------------------------------------------------------
-- Woven rows
-----------------------------------------------------------------------------------------

theorem weave_cons (n : Node) (space : Bool) (nodes : Row)
    : weave ((n, space) :: nodes) = n :: ((if space then [Node.space] else []) ++ weave nodes) := by
  cases space <;> rfl

/-- Children that nothing follows are woven as they are. -/
theorem weave_untouched (cs : List Node)
    : weave (cs.map (fun c => (c, false))) = cs := by
  induction cs with
  | nil => rfl
  | cons c cs ih => exact congrArg (c :: ·) ih

/-- The children of a row with no space after any of them. -/
def unspaced (nodes : Row) : Row :=
  nodes.map (fun node => (node.1, false))

theorem weave_unspaced (nodes : Row)
    : weave (unspaced nodes) = bare nodes := by
  rw [bare, ← weave_untouched (nodes.map Prod.fst), List.map_map]
  rfl

theorem lastLeafOf_cons (parent : Kind) (c : Node) {cs : List Node} (h : cs ≠ [])
    : Node.lastLeafOf parent (c :: cs) = Node.lastLeafOf parent cs := by
  cases cs with
  | nil => contradiction
  | cons => rfl

theorem weave_ne_nil (node : Node × Bool) (nodes : Row)
    : weave (node :: nodes) ≠ [] := by
  obtain ⟨n, space⟩ := node
  rw [weave_cons]
  exact List.cons_ne_nil _ _

/-- The last leaf of a woven row is that of its last child. -/
theorem lastLeafOf_weave_cons (parent : Kind) (n : Node) (space : Bool) (node : Node × Bool)
    (nodes : Row)
    : Node.lastLeafOf parent (weave ((n, space) :: node :: nodes))
      = Node.lastLeafOf parent (weave (node :: nodes)) := by
  have filled := weave_ne_nil node nodes
  cases space with
  | false => exact lastLeafOf_cons parent n filled
  | true =>
      exact (lastLeafOf_cons parent n (List.cons_ne_nil _ _)).trans
        (lastLeafOf_cons parent Node.space filled)

/-- A change at the last leaf of several nodes passes over all but the last of them. -/
theorem mapLastLeafOf_weave_cons (f : Node → Node) (n : Node) (space : Bool) (node : Node × Bool)
    {nodes changed : Row}
    (h : Node.mapLastLeafOf f (weave (node :: nodes)) = weave changed)
    : Node.mapLastLeafOf f (weave ((n, space) :: node :: nodes))
      = weave ((n, space) :: changed) := by
  have filled := weave_ne_nil node nodes
  obtain ⟨first, rest, shape⟩ := List.exists_cons_of_ne_nil filled
  cases space with
  | false =>
      simp only [weave] at *
      rw [shape, Node.mapLastLeafOf, ← shape, h]
  | true =>
      simp only [weave] at *
      rw [shape, Node.mapLastLeafOf, Node.mapLastLeafOf, ← shape, h]

-----------------------------------------------------------------------------------------
-- Descents that end alike
-----------------------------------------------------------------------------------------

/-- Two descents that end alike: at corresponding leaves, or at the same dead end. -/
inductive Found (same : Node → Node → Prop) : Except DeadEnd Node → Except DeadEnd Node → Prop
  | leaf {l l'} (kept : same l l') : Found same (.ok l) (.ok l')
  | deadEnd {e} : Found same (.error e) (.error e)

theorem Found.ok {same : Node → Node → Prop} {x y : Except DeadEnd Node} {l : Node}
    (h : Found same x y) (found : x = .ok l)
    : ∃ l', y = .ok l' ∧ same l l' := by
  subst found
  cases h with
  | leaf kept => exact ⟨_, rfl, kept⟩

theorem Found.source {same : Node → Node → Prop} {x y : Except DeadEnd Node} {l' : Node}
    (h : Found same x y) (found : y = .ok l')
    : ∃ l, x = .ok l ∧ same l l' := by
  subst found
  cases h with
  | leaf kept => exact ⟨_, rfl, kept⟩

theorem Found.refl {same : Node → Node → Prop} (refl : ∀ n, same n n) (x : Except DeadEnd Node)
    : Found same x x := by
  cases x with
  | error => exact .deadEnd
  | ok n => exact .leaf (refl n)

theorem Found.mono {same same' : Node → Node → Prop} {x y : Except DeadEnd Node}
    (imp : ∀ {n d}, same n d → same' n d) (h : Found same x y)
    : Found same' x y := by
  cases h with
  | leaf kept => exact .leaf (imp kept)
  | deadEnd => exact .deadEnd

theorem Found.trans {same : Node → Node → Prop} {x y z : Except DeadEnd Node}
    (trans : ∀ {a b c}, same a b → same b c → same a c)
    (h : Found same x y) (h' : Found same y z)
    : Found same x z := by
  cases h with
  | leaf kept =>
      cases h' with
      | leaf kept' => exact .leaf (trans kept kept')
  | deadEnd =>
      cases h'
      exact .deadEnd

-----------------------------------------------------------------------------------------
-- Changes at the edges
-----------------------------------------------------------------------------------------

/-- A change that keeps trees aligned where it is made at a first leaf `l`. -/
structure KeepsFirst (same : Node → Node → Prop) (seam : Seam) (f : Node → Node) (l : Node)
    : Prop where
  leaf : Node.LeafMap f
  same : ∀ {n}, same n l → same n (f l)
  seam : ∀ {c c' d space d'}, d.firstLeaf = .ok l → seam c c' d space d'
    → seam c c' (d.mapFirstLeaf f) space d'

/-- A change that keeps trees aligned where it is made at a last leaf `l`. -/
structure KeepsLast (same : Node → Node → Prop) (seam : Seam) (f : Node → Node) (l : Node)
    : Prop where
  leaf : Node.LeafMap f
  same : ∀ {n}, same n l → same n (f l)
  seam : ∀ {c c' d space d'}, d'.lastLeaf = .ok l → seam c c' d space d'
    → seam c c' d space (d'.mapLastLeaf f)

mutual

theorem Aligned.changeFirst {same : Node → Node → Prop} {seam : Seam} {f : Node → Node}
    {n d l : Node}
    (keeps : KeepsFirst same seam f l) (found : d.firstLeaf = .ok l) (h : Aligned same seam n d)
    : Aligned same seam n (d.mapFirstLeaf f) := by
  cases h with
  | group each => exact .group (each.changeFirst keeps _ found)
  | flow row =>
      obtain ⟨nodes, woven, row⟩ := row.changeFirst keeps _ found
      rw [Node.mapFirstLeaf, woven]
      exact .flow row
  | leaf single still kept =>
      rw [Node.firstLeaf_of_leaf still, Except.ok.injEq] at found
      subst found
      rw [Node.mapFirstLeaf_of_leaf f still]
      exact .leaf single (keeps.leaf d still) (keeps.same kept)

theorem AlignedEach.changeFirst {same : Node → Node → Prop} {seam : Seam} {f : Node → Node}
    {l : Node}
    {ns ds : List Node} (keeps : KeepsFirst same seam f l) (parent : Kind)
    (found : Node.firstLeafOf parent ds = .ok l) (h : AlignedEach same seam ns ds)
    : AlignedEach same seam ns (Node.mapFirstLeafOf f ds) := by
  cases h with
  | nil => exact .nil
  | cons head tail => exact .cons (head.changeFirst keeps found) tail

theorem AlignedRow.changeFirst {same : Node → Node → Prop} {seam : Seam} {f : Node → Node}
    {l : Node}
    {ns : List Node} {nodes : Row} (keeps : KeepsFirst same seam f l) (parent : Kind)
    (found : Node.firstLeafOf parent (weave nodes) = .ok l) (h : AlignedRow same seam ns nodes)
    : ∃ changed,
        Node.mapFirstLeafOf f (weave nodes) = weave changed ∧ AlignedRow same seam ns changed := by
  cases h with
  | nil => cases found
  | @last n d head =>
      exact ⟨[(d.mapFirstLeaf f, false)], rfl, .last (head.changeFirst keeps found)⟩
  | @cons n d space next d' space' ns nodes head joint tail =>
      simp only [weave_cons d space] at found ⊢
      refine ⟨(d.mapFirstLeaf f, space) :: (d', space') :: nodes, ?_, ?_⟩
      · rw [weave_cons (d.mapFirstLeaf f), Node.mapFirstLeafOf]
      · exact .cons (head.changeFirst keeps found) (keeps.seam found joint) tail

end

mutual

theorem Aligned.changeLast {same : Node → Node → Prop} {seam : Seam} {f : Node → Node}
    {n d l : Node}
    (keeps : KeepsLast same seam f l) (found : d.lastLeaf = .ok l) (h : Aligned same seam n d)
    : Aligned same seam n (d.mapLastLeaf f) := by
  cases h with
  | group each => exact .group (each.changeLast keeps _ found)
  | @flow form cs nodes m row =>
      cases nodes with
      | nil => cases found
      | cons node nodes =>
          obtain ⟨_, _, woven, row, -⟩ := row.changeLast keeps _ found
          rw [Node.mapLastLeaf, woven]
          exact .flow row
  | leaf single still kept =>
      rw [Node.lastLeaf_of_leaf still, Except.ok.injEq] at found
      subst found
      rw [Node.mapLastLeaf_of_leaf f still]
      exact .leaf single (keeps.leaf d still) (keeps.same kept)

theorem AlignedEach.changeLast {same : Node → Node → Prop} {seam : Seam} {f : Node → Node}
    {l : Node}
    {ns ds : List Node} (keeps : KeepsLast same seam f l) (parent : Kind)
    (found : Node.lastLeafOf parent ds = .ok l) (h : AlignedEach same seam ns ds)
    : AlignedEach same seam ns (Node.mapLastLeafOf f ds) := by
  cases h with
  | nil => exact .nil
  | cons head tail =>
      cases tail with
      | nil => exact .cons (head.changeLast keeps found) .nil
      | cons next rest =>
          exact .cons head (AlignedEach.changeLast keeps parent found (.cons next rest))

/-- What ends a row has changed; its first child has changed only if it is the last. -/
theorem AlignedRow.changeLast {same : Node → Node → Prop} {seam : Seam} {f : Node → Node}
    {d l : Node} {space : Bool}
    {ns : List Node} {nodes : Row} (keeps : KeepsLast same seam f l) (parent : Kind)
    (found : Node.lastLeafOf parent (weave ((d, space) :: nodes)) = .ok l)
    (h : AlignedRow same seam ns ((d, space) :: nodes))
    : ∃ d' changed,
        Node.mapLastLeafOf f (weave ((d, space) :: nodes)) = weave ((d', space) :: changed)
        ∧ AlignedRow same seam ns ((d', space) :: changed)
        ∧ (d' = d ∨ d.lastLeaf = .ok l ∧ d' = d.mapLastLeaf f) := by
  cases h with
  | last head =>
      exact ⟨d.mapLastLeaf f, [], rfl, .last (head.changeLast keeps found), .inr ⟨found, rfl⟩⟩
  | cons head joint tail =>
      rw [lastLeafOf_weave_cons] at found
      obtain ⟨d'', changed, woven, row, place⟩ := tail.changeLast keeps parent found
      refine ⟨d, (d'', _) :: changed, mapLastLeafOf_weave_cons f d space _ woven, ?_, .inl rfl⟩
      rcases place with rfl | ⟨ends, rfl⟩
      · exact .cons head joint row
      · exact .cons head (keeps.seam ends joint) row

end

end MixedScript.Spacing
