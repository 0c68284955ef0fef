import MixedScript.Document.Leaf

/-! The way down a tree to the leaf at one of its edges. It leads through the first children or
through the last ones, and it fails where a container without children lies on it, and only
there. -/

namespace MixedScript.Node

/-- The leaf at an edge of a tree. -/
def edgeLeaf (n : Node) : Edge → Except DeadEnd Node
  | .first => n.firstLeaf
  | .last => n.lastLeaf

/-- The child at an edge of a node. -/
def edgeChild? (n : Node) : Edge → Option Node
  | .first => n.children.head?
  | .last => n.children.getLast?

/-- A node lies on the way from another down to the leaf at an edge. -/
inductive Descends (edge : Edge) : Node → Node → Prop
  | here {n} : Descends edge n n
  | child {n c e} (next : n.edgeChild? edge = some c) (below : Descends edge c e)
    : Descends edge n e

/-- A container without children. -/
def Barren (n : Node) : Prop :=
  n.isContainer = true ∧ n.children = []

/-- A node below another, reached through containers; the blocks of a note are not. -/
inductive Below : Node → Node → Prop
  | here {n} : Below n n
  | child {n c e} (held : c ∈ n.children) (below : Below c e) : Below n e

theorem mem_children_of_edgeChild? {n c : Node} {edge : Edge} (h : n.edgeChild? edge = some c)
    : c ∈ n.children := by
  cases edge with
  | first => exact List.mem_of_head? h
  | last => exact List.mem_of_getLast? h

theorem isContainer_of_mem_children {n c : Node} (h : c ∈ n.children)
    : n.isContainer = true := by
  cases n <;> first | rfl | cases h

theorem sizeOf_lt_of_mem_children {n c : Node} (h : c ∈ n.children)
    : sizeOf c < sizeOf n := by
  cases n with
  | group form cs m =>
      have smaller := List.sizeOf_lt_of_mem (show c ∈ cs from h)
      simp only [group.sizeOf_spec]
      omega
  | flow form cs m =>
      have smaller := List.sizeOf_lt_of_mem (show c ∈ cs from h)
      simp only [flow.sizeOf_spec]
      omega
  | text | math | code | note | inert => cases h

theorem lastLeafOf_eq (parent : Kind) (cs : List Node)
    : lastLeafOf parent cs = match cs.getLast? with
      | none => .error ⟨parent, .last⟩
      | some c => c.lastLeaf := by
  induction cs with
  | nil => rfl
  | cons c cs ih =>
      cases cs with
      | nil => rfl
      | cons next rest =>
          rw [lastLeafOf, ih, List.getLast?_cons_cons]

/-- In a container the way goes on with the child at the edge, if there is one. -/
theorem edgeLeaf_of_isContainer {n : Node} (container : n.isContainer = true) (edge : Edge)
    : n.edgeLeaf edge = match n.edgeChild? edge with
      | none => .error ⟨n.kind, edge⟩
      | some c => c.edgeLeaf edge := by
  cases n with
  | group form cs m =>
      cases edge with
      | first => cases cs <;> rfl
      | last => exact lastLeafOf_eq form.kind cs
  | flow form cs m =>
      cases edge with
      | first => cases cs <;> rfl
      | last => exact lastLeafOf_eq form.kind cs
  | text | math | code | note | inert => cases container

theorem edgeLeaf_of_leaf {n : Node} (leaf : n.isContainer = false) (edge : Edge)
    : n.edgeLeaf edge = .ok n := by
  cases n <;> cases edge <;> first | rfl | cases leaf

theorem edgeChild?_eq_none {n : Node} {edge : Edge}
    : n.edgeChild? edge = none ↔ n.children = [] := by
  cases edge <;> simp [edgeChild?]

/-- A dead end is a container without children on the way. -/
theorem exists_barren_of_edgeLeaf_error {edge : Edge} (n : Node) {d : DeadEnd}
    (h : n.edgeLeaf edge = .error d)
    : ∃ e, Descends edge n e ∧ e.Barren ∧ d = ⟨e.kind, edge⟩ := by
  cases container : n.isContainer with
  | false =>
      rw [edgeLeaf_of_leaf container] at h
      cases h
  | true =>
      rw [edgeLeaf_of_isContainer container] at h
      cases next : n.edgeChild? edge with
      | none =>
          rw [next] at h
          exact ⟨n, .here, ⟨container, edgeChild?_eq_none.mp next⟩, (Except.error.inj h).symm⟩
      | some c =>
          rw [next] at h
          have smaller := sizeOf_lt_of_mem_children (mem_children_of_edgeChild? next)
          obtain ⟨e, below, barren, same⟩ := exists_barren_of_edgeLeaf_error c h
          exact ⟨e, .child next below, barren, same⟩
termination_by sizeOf n

/-- The way ends at a container without children, and says so. -/
theorem Descends.edgeLeaf_error {edge : Edge} {n e : Node} (h : Descends edge n e)
    (barren : e.Barren)
    : n.edgeLeaf edge = .error ⟨e.kind, edge⟩ := by
  obtain ⟨container, childless⟩ := barren
  induction h with
  | here => rw [edgeLeaf_of_isContainer container, edgeChild?_eq_none.mpr childless]
  | child next below ih =>
      have inner := isContainer_of_mem_children (mem_children_of_edgeChild? next)
      rw [edgeLeaf_of_isContainer inner, next]
      exact ih container childless

/-- The leaf at an edge is missing exactly where a container without children lies on the way. -/
theorem edgeLeaf_eq_error (edge : Edge) {n : Node} {d : DeadEnd}
    : n.edgeLeaf edge = .error d ↔ ∃ e, Descends edge n e ∧ e.Barren ∧ d = ⟨e.kind, edge⟩ := by
  refine ⟨exists_barren_of_edgeLeaf_error n, ?_⟩
  rintro ⟨e, way, barren, rfl⟩
  exact way.edgeLeaf_error barren

end MixedScript.Node
