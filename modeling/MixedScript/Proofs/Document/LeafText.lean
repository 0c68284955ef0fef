import MixedScript.Proofs.Document.Descent
import MixedScript.Proofs.Document.EdgeLeaf
import MixedScript.Proofs.Text.Lines

/-! What the leaves of a tree say about it. The leaf that is found at an edge is the one at that edge of
all leaves in order, and the text below a node is that of its leaves, in whatever containers they stand. -/

namespace MixedScript

/-- The element of a list at an edge. -/
def Edge.of? {α : Type} : Edge → List α → Option α
  | first, xs => xs.head?
  | last, xs => xs.getLast?

namespace Node

variable {n l : Node} {ns : List Node} {edge : Edge} {joiner : Chars}

-----------------------------------------------------------------------------------------
-- The edges of the leaves
-----------------------------------------------------------------------------------------

theorem leaf_of_edgeLeaf (found : n.edgeLeaf edge = .ok l)
    : edge.of? n.leaves = some l := by
  cases edge with
  | first =>
      obtain ⟨rest, leaves⟩ := leaves_of_firstLeaf found
      rw [leaves]
      rfl
  | last =>
      obtain ⟨before, leaves⟩ := leaves_of_lastLeaf found
      rw [leaves]
      exact List.getLast?_concat

/-- A leaf is found exactly if no container on the way to it is without children, and it is the one at
that edge of the leaves. -/
theorem edgeLeaf_eq_ok
    : n.edgeLeaf edge = .ok l
      ↔ (∀ e, Descends edge n e → ¬ e.Barren) ∧ edge.of? n.leaves = some l := by
  constructor
  · intro found
    refine ⟨fun e way barren => ?_, leaf_of_edgeLeaf found⟩
    have missing := way.edgeLeaf_error barren
    rw [found] at missing
    cases missing
  · intro ⟨passable, atEdge⟩
    cases found : n.edgeLeaf edge with
    | error d =>
        obtain ⟨e, way, barren, -⟩ := (edgeLeaf_eq_error edge).mp found
        exact absurd barren (passable e way)
    | ok other =>
        have same := (leaf_of_edgeLeaf found).symm.trans atEdge
        exact congrArg Except.ok (Option.some.inj same)

-----------------------------------------------------------------------------------------
-- The text of the leaves
-----------------------------------------------------------------------------------------

/-- The texts among leaves, without the empty ones. -/
def filledTexts (leaves : List Node) : List Chars :=
  (leaves.map textContent).filter (fun s => !s.isEmpty)

theorem filledTexts_append (before behind : List Node)
    : filledTexts (before ++ behind) = filledTexts before ++ filledTexts behind := by
  simp only [filledTexts, List.map_append, List.filter_append]

theorem ne_nil_of_mem_filledTexts {s : Chars} (held : s ∈ filledTexts ns)
    : s ≠ [] := by
  have filled := (List.mem_filter.mp held).2
  simpa using filled

theorem ne_nil_of_mem_plainParts {s : Chars} (held : s ∈ plainParts joiner ns)
    : s ≠ [] := by
  induction ns with
  | nil => cases held
  | cons n ns ih =>
      rw [plainParts] at held
      split at held
      · exact ih held
      · next filled =>
          rcases List.mem_cons.mp held with same | later
          · exact fun empty => filled (same ▸ empty)
          · exact ih later

theorem leavesOf_eq_flatMap (ns : List Node)
    : leavesOf ns = ns.flatMap leaves := by
  induction ns with
  | nil => rfl
  | cons n ns ih => rw [leavesOf, ih, List.flatMap_cons]

mutual

theorem plainText_eq_join (joiner : Chars) (n : Node)
    : n.plainText joiner = Chars.join joiner (filledTexts n.leaves) := by
  cases n with
  | group form cs m => exact plainTextOf_eq_join joiner cs
  | flow form cs m => exact plainTextOf_eq_join joiner cs
  | text s m => cases s <;> rfl
  | math | code | note | inert => rfl
termination_by sizeOf n

/-- The text below several nodes is that of their leaves. -/
theorem plainTextOf_eq_join (joiner : Chars) (ns : List Node)
    : plainTextOf joiner ns = Chars.join joiner (filledTexts (leavesOf ns)) := by
  cases ns with
  | nil => rfl
  | cons n ns =>
      have head := plainText_eq_join joiner n
      have tail := plainTextOf_eq_join joiner ns
      rw [plainTextOf, plainParts, leavesOf, filledTexts_append]
      split
      · next empty =>
          have nothing : filledTexts n.leaves = [] :=
            (Chars.join_eq_nil (fun _ => ne_nil_of_mem_filledTexts) joiner).mp (head.symm.trans empty)
          rw [nothing]
          exact tail
      · next some =>
          -- A joiner follows the first part exactly where some text follows the first leaves.
          have alike : plainParts joiner ns = [] ↔ filledTexts (leavesOf ns) = [] := by
            rw [← Chars.join_eq_nil (fun _ => ne_nil_of_mem_plainParts) joiner,
              ← Chars.join_eq_nil (fun _ => ne_nil_of_mem_filledTexts) joiner]
            exact iff_of_eq (congrArg (· = []) tail)
          rw [head] at some ⊢
          refine Chars.join_group (fun none => some ?_) tail alike
          rw [none]
          rfl
termination_by sizeOf ns

end

-----------------------------------------------------------------------------------------
-- Both
-----------------------------------------------------------------------------------------

/-- All ways to the leaves of a tree agree. The descent to an edge comes to the leaf at that edge of all
leaves in order; it fails exactly at a container without children on its way, and names its kind. The
text of a node is that of its leaves, the empty ones left out, with the joiner between them, and so is the
text of several nodes. So it makes no difference to the text which leaves share a container. -/
theorem leaves_agree (n : Node) (joiner : Chars)
    : (∀ edge l,
        n.edgeLeaf edge = .ok l
          ↔ (∀ e, Descends edge n e → ¬ e.Barren) ∧ edge.of? n.leaves = some l)
      ∧ (∀ edge d,
          n.edgeLeaf edge = .error d
            ↔ ∃ e, Descends edge n e ∧ e.Barren ∧ d = ⟨e.kind, edge⟩)
      ∧ n.plainText joiner = Chars.join joiner (filledTexts n.leaves)
      ∧ ∀ ns : List Node,
          plainTextOf joiner ns = Chars.join joiner (filledTexts (ns.flatMap leaves)) := by
  refine ⟨fun edge l => edgeLeaf_eq_ok, fun edge d => edgeLeaf_eq_error edge,
    plainText_eq_join joiner n, fun ns => ?_⟩
  rw [← leavesOf_eq_flatMap]
  exact plainTextOf_eq_join joiner ns

/-- A container without children between two texts does not show in the text. -/
example
    : plainText [','] (.flow .paragraph
        [.flow .strong [.text ['a'] [], .text [] []] [], .flow .emphasis [] [], .text ['b'] []] [])
      = ['a', ',', 'b'] :=
  rfl

end Node

end MixedScript
