import MixedScript.Proofs.Document.EdgeLeaf
import MixedScript.Proofs.Spacing.Step

/-! Spacing leaves the shape of a tree alone. Whatever the rules reply, a tree that has been spaced
is the source with single spaces put between children of flows and with other content in its texts
and its math; every space put in is one of those that the run has counted. -/

namespace MixedScript.Spacing

variable {rules : Rules} {options : SpacingOptions}

mutual

/-- `Respaced n d k`: the tree `d` is the tree `n` with `k` spaces put between children of its flows
and with any content in its texts and its math. All else is equal, the body of a note included. -/
inductive Respaced : Node → Node → Nat → Prop
  | group {form cs ds m k} (each : RespacedEach cs ds k)
      : Respaced (.group form cs m) (.group form ds m) k
  | flow {form cs ds m k} (row : RespacedRow cs ds k)
      : Respaced (.flow form cs m) (.flow form ds m) k
  | text {s t m} : Respaced (.text s m) (.text t m) 0
  | math {form s t m} : Respaced (.math form s m) (.math form t m) 0
  | code {s m} : Respaced (.code s m) (.code s m) 0
  | note {i cs m} : Respaced (.note i cs m) (.note i cs m) 0
  | inert {leaf m} : Respaced (.inert leaf m) (.inert leaf m) 0

/-- Children of a group: one for one. -/
inductive RespacedEach : List Node → List Node → Nat → Prop
  | nil : RespacedEach [] [] 0
  | cons {n d ns ds j k} (head : Respaced n d j) (tail : RespacedEach ns ds k)
    : RespacedEach (n :: ns) (d :: ds) (j + k)

/-- Children of a flow: one for one, with at most one space of its own after each child but the
last. -/
inductive RespacedRow : List Node → List Node → Nat → Prop
  | nil : RespacedRow [] [] 0
  | last {n d k} (head : Respaced n d k) : RespacedRow [n] [d] k
  | tight {n d next ns ds j k} (head : Respaced n d j) (tail : RespacedRow (next :: ns) ds k)
    : RespacedRow (n :: next :: ns) (d :: ds) (j + k)
  | spaced {n d next ns ds j k} (head : Respaced n d j) (tail : RespacedRow (next :: ns) ds k)
    : RespacedRow (n :: next :: ns) (d :: Node.space :: ds) (j + 1 + k)

end

-----------------------------------------------------------------------------------------
-- Leaves counted
-----------------------------------------------------------------------------------------

mutual

/-- Every space that has been put in is one more leaf, and there are no others. -/
theorem Respaced.countLeaves {n d : Node} {k : Nat} (h : Respaced n d k)
    : d.leaves.length = n.leaves.length + k := by
  cases h with
  | group each => exact each.countLeaves
  | flow row => exact row.countLeaves
  | text | math | code | note | inert => rfl

theorem RespacedEach.countLeaves {ns ds : List Node} {k : Nat} (h : RespacedEach ns ds k)
    : (Node.leavesOf ds).length = (Node.leavesOf ns).length + k := by
  cases h with
  | nil => rfl
  | cons head tail =>
      have := head.countLeaves
      have := tail.countLeaves
      simp only [Node.leavesOf, List.length_append]
      omega

theorem RespacedRow.countLeaves {ns ds : List Node} {k : Nat} (h : RespacedRow ns ds k)
    : (Node.leavesOf ds).length = (Node.leavesOf ns).length + k := by
  cases h with
  | nil => rfl
  | last head =>
      have := head.countLeaves
      simp only [Node.leavesOf, List.length_append]
      omega
  | tight head tail =>
      have := head.countLeaves
      have := tail.countLeaves
      simp only [Node.leavesOf, List.length_append] at *
      omega
  | spaced head tail =>
      have := head.countLeaves
      have := tail.countLeaves
      simp only [Node.leavesOf, Node.space, Node.leaves, List.length_append, List.length_cons,
        List.length_nil] at *
      omega

end

-----------------------------------------------------------------------------------------
-- Changes at the edges of a child
-----------------------------------------------------------------------------------------

/-- A leaf stays respaced when a text is given other content. -/
theorem Respaced.change {f : Node → Node} (hf : Node.TextChange f) {n d : Node} {k : Nat}
    (h : Respaced n d k) (leaf : d.isContainer = false)
    : Respaced n (f d) k := by
  cases h with
  | text =>
      obtain ⟨t, changed⟩ := hf.text _ _
      rw [changed]
      exact .text
  | group | flow => simp [Node.isContainer] at leaf
  | math => rw [hf.other _ leaf (by simp)]; exact .math
  | code => rw [hf.other _ leaf (by simp)]; exact .code
  | note => rw [hf.other _ leaf (by simp)]; exact .note
  | inert => rw [hf.other _ leaf (by simp)]; exact .inert

mutual

/-- Other content for the text that starts a respaced tree keeps it respaced. -/
theorem Respaced.changeFirst {f : Node → Node} (hf : Node.TextChange f) {n d : Node} {k : Nat}
    (h : Respaced n d k)
    : Respaced n (d.mapFirstLeaf f) k := by
  cases h with
  | group each => exact .group (each.changeFirst hf)
  | flow row => exact .flow (row.changeFirst hf)
  | text => exact Respaced.text.change hf rfl
  | math => exact Respaced.math.change hf rfl
  | code => exact Respaced.code.change hf rfl
  | note => exact Respaced.note.change hf rfl
  | inert => exact Respaced.inert.change hf rfl

theorem RespacedEach.changeFirst {f : Node → Node} (hf : Node.TextChange f) {ns ds : List Node}
    {k : Nat} (h : RespacedEach ns ds k)
    : RespacedEach ns (Node.mapFirstLeafOf f ds) k := by
  cases h with
  | nil => exact .nil
  | cons head tail => exact .cons (head.changeFirst hf) tail

theorem RespacedRow.changeFirst {f : Node → Node} (hf : Node.TextChange f) {ns ds : List Node}
    {k : Nat} (h : RespacedRow ns ds k)
    : RespacedRow ns (Node.mapFirstLeafOf f ds) k := by
  cases h with
  | nil => exact .nil
  | last head => exact .last (head.changeFirst hf)
  | tight head tail => exact .tight (head.changeFirst hf) tail
  | spaced head tail => exact .spaced (head.changeFirst hf) tail

end

/-- A respaced row with a child has one, too. -/
theorem RespacedRow.ne_nil {n : Node} {ns ds : List Node} {k : Nat} (h : RespacedRow (n :: ns) ds k)
    : ds ≠ [] := by
  cases h <;> simp

theorem RespacedEach.ne_nil {n : Node} {ns ds : List Node} {k : Nat}
    (h : RespacedEach (n :: ns) ds k)
    : ds ≠ [] := by
  cases h
  simp

/-- A change at the last leaf of several nodes passes over all but the last of them. -/
theorem mapLastLeafOf_cons (f : Node → Node) (d : Node) {ds : List Node} (h : ds ≠ [])
    : Node.mapLastLeafOf f (d :: ds) = d :: Node.mapLastLeafOf f ds := by
  cases ds with
  | nil => contradiction
  | cons => rfl

mutual

/-- Other content for the text that ends a respaced tree keeps it respaced. -/
theorem Respaced.changeLast {f : Node → Node} (hf : Node.TextChange f) {n d : Node} {k : Nat}
    (h : Respaced n d k)
    : Respaced n (d.mapLastLeaf f) k := by
  cases h with
  | group each => exact .group (each.changeLast hf)
  | flow row => exact .flow (row.changeLast hf)
  | text => exact Respaced.text.change hf rfl
  | math => exact Respaced.math.change hf rfl
  | code => exact Respaced.code.change hf rfl
  | note => exact Respaced.note.change hf rfl
  | inert => exact Respaced.inert.change hf rfl

theorem RespacedEach.changeLast {f : Node → Node} (hf : Node.TextChange f) {ns ds : List Node}
    {k : Nat} (h : RespacedEach ns ds k)
    : RespacedEach ns (Node.mapLastLeafOf f ds) k := by
  cases h with
  | nil => exact .nil
  | @cons n d ns ds j k head tail =>
      cases ns with
      | nil =>
          cases tail
          exact .cons (head.changeLast hf) .nil
      | cons next ns =>
          rw [mapLastLeafOf_cons f d tail.ne_nil]
          exact .cons head (tail.changeLast hf)

theorem RespacedRow.changeLast {f : Node → Node} (hf : Node.TextChange f) {ns ds : List Node}
    {k : Nat} (h : RespacedRow ns ds k)
    : RespacedRow ns (Node.mapLastLeafOf f ds) k := by
  cases h with
  | nil => exact .nil
  | last head => exact .last (head.changeLast hf)
  | tight head tail =>
      rw [mapLastLeafOf_cons f _ tail.ne_nil]
      exact .tight head (tail.changeLast hf)
  | spaced head tail =>
      rw [mapLastLeafOf_cons f _ (by simp), mapLastLeafOf_cons f _ tail.ne_nil]
      exact .spaced head (tail.changeLast hf)

end

-----------------------------------------------------------------------------------------
-- Boundaries and runs
-----------------------------------------------------------------------------------------

/-- A resolved boundary keeps both of its children respaced. -/
theorem Respaced.resolve {carry : Carry} {n c left right : Node} {j k : Nat} {b : Resolved}
    (hl : Respaced n left j) (hr : Respaced c right k) (h : resolve rules carry left right = .ok b)
    : Respaced n b.left j ∧ Respaced c b.right k := by
  obtain ⟨sameLeft | ⟨s, changedLeft⟩, sameRight | ⟨t, changedRight⟩⟩ := resolve_shape h
  · rw [sameLeft, sameRight]
    exact ⟨hl, hr⟩
  · rw [sameLeft, changedRight]
    exact ⟨hl, hr.changeFirst (Node.textChange_withText t)⟩
  · rw [changedLeft, sameRight]
    exact ⟨hl.changeLast (Node.textChange_withText s), hr⟩
  · rw [changedLeft, changedRight]
    exact ⟨hl.changeLast (Node.textChange_withText s), hr.changeFirst (Node.textChange_withText t)⟩

/-- Repaid whitespace keeps a child respaced. -/
theorem Respaced.repay {n d : Node} {k : Nat} (owed : Bool) (h : Respaced n d k)
    : Respaced n (repay owed d) k := by
  unfold Spacing.repay
  split
  · exact h.changeFirst textChange_repayLeaf
  · exact h

/-- A tidied leaf is respaced when the leaf with any content of its own is. -/
theorem respaced_tidyLeaf {question : Question} {reply : Reply Chars} {old : Node}
    {new : Chars → Node}
    (h : (tidyLeaf question reply old new).fault = none) (respaced : ∀ s, Respaced old (new s) 0)
    : Respaced old (tidyLeaf question reply old new).result
        (tidyLeaf question reply old new).splices.length := by
  cases expected : expectText question reply with
  | ok s =>
      simp only [tidyLeaf, expected]
      exact respaced s
  | error f => simp [tidyLeaf, expected] at h

mutual

/-- Spacing a node that nothing stops respaces it, and every space put in is counted. By induction
on the tree; the row of a flow carries along that the child before has been respaced. -/
theorem formatNode_respaced (n : Node) (h : (formatNode rules options n).fault = none)
    : Respaced n (formatNode rules options n).result
        (formatNode rules options n).splices.length := by
  cases n with
  | group form cs m =>
      simp only [formatNode, Run.map] at h ⊢
      exact .group (formatEach_respaced cs h)
  | flow form cs m =>
      simp only [formatNode, Run.map] at h ⊢
      exact .flow (formatFlow_respaced form.kind cs h)
  | text s m =>
      by_cases tidied : options.text = true
      · simp only [formatNode, tidied, if_true] at h ⊢
        exact respaced_tidyLeaf h (fun _ => .text)
      · simp only [formatNode, if_neg tidied]
        exact .text
  | math form s m =>
      by_cases tidied : options.math = true
      · simp only [formatNode, tidied, if_true] at h ⊢
        exact respaced_tidyLeaf h (fun _ => .math)
      · simp only [formatNode, if_neg tidied]
        exact .math
  | code => exact .code
  | note => exact .note
  | inert => exact .inert
termination_by sizeOf n

theorem formatEach_respaced (ns : List Node) (h : (formatEach rules options ns).fault = none)
    : RespacedEach ns (formatEach rules options ns).result
        (formatEach rules options ns).splices.length := by
  cases ns with
  | nil => exact .nil
  | cons n ns =>
      obtain ⟨hn, hns, same⟩ := formatEach_cons h
      rw [same]
      simp only [List.length_append]
      exact .cons (formatNode_respaced n hn) (formatEach_respaced ns hns)
termination_by sizeOf ns

theorem formatFlow_respaced (kind : Kind) (ns : List Node)
    (h : (formatFlow rules options kind ns).fault = none)
    : RespacedRow ns (formatFlow rules options kind ns).result
        (formatFlow rules options kind ns).splices.length := by
  cases ns with
  | nil => exact .nil
  | cons n ns =>
      obtain ⟨hn, hrow, same⟩ := formatFlow_cons h
      rw [same]
      simp only [List.length_append]
      exact formatRest_respaced kind .empty (formatNode_respaced n hn) ns hrow
termination_by sizeOf ns

theorem formatRest_respaced (kind : Kind) (carry : Carry) {n before : Node} {j : Nat}
    (hb : Respaced n before j) (ns : List Node)
    (h : (formatRest rules options kind carry before ns).fault = none)
    : RespacedRow (n :: ns) (weave (formatRest rules options kind carry before ns).result)
        (j + (formatRest rules options kind carry before ns).splices.length) := by
  cases ns with
  | nil => exact .last (hb.repay carry.owed)
  | cons next ns =>
      obtain ⟨b, hn, resolved, hrow, same⟩ := formatRest_cons h
      obtain ⟨left, right⟩ := hb.resolve (formatNode_respaced next hn) resolved
      have row := formatRest_respaced kind b.carry right ns hrow
      rw [same]
      cases space : b.space with
      | false =>
          simp only [weave, Bool.false_eq_true, if_false, List.append_nil, List.length_append]
          exact .tight left row
      | true =>
          simp only [weave, if_true, List.length_append, List.length_cons, List.length_nil]
          rw [show ∀ x y, j + (x + (0 + 1) + y) = j + 1 + (x + y) by omega]
          exact .spaced left row
termination_by sizeOf ns

end

/-- Spacing that nothing stops keeps the shape of every tree under every rules, and the leaves grow
by the spaces that the run counts. -/
theorem format_keeps_shape (tree : Node) (h : (format rules options tree).fault = none)
    : Respaced tree (format rules options tree).result (format rules options tree).splices.length
      ∧ (format rules options tree).result.countLeaves
        = tree.countLeaves + (format rules options tree).splices.length := by
  have respaced := formatNode_respaced tree h
  exact ⟨respaced, respaced.countLeaves⟩

/-- Rules under which the runs at a boundary change places and a space is wanted everywhere. -/
def exchangingRules : Rules :=
  { Rules.standard with join := fun l r _ => .value ⟨.value r, .value l, .value true, .value true⟩ }

/-- Strong text and plain text exchange their contents and get a space between them; a note stays as
it is. -/
theorem exchangingRules_keep_shape
    : let note := Node.note ['n'] [.flow .paragraph [.text ['a', '中'] []] []] []
      let tree := Node.group .document
        [.flow .paragraph [.flow .strong [.text ['a'] []] [], .text ['中'] []] [], note] []
      let spaced := Node.group .document
        [.flow .paragraph [.flow .strong [.text ['中'] []] [], Node.space, .text ['a'] []] [],
          note] []
      (format exchangingRules {} tree).fault = none
      ∧ Respaced tree spaced 1
      ∧ spaced.countLeaves = tree.countLeaves + 1 :=
  ⟨rfl, @format_keeps_shape exchangingRules {} _ rfl⟩

end MixedScript.Spacing
