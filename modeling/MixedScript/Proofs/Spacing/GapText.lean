import MixedScript.Proofs.Spacing.Exact
import MixedScript.Proofs.Spacing.GapLoss

/-! The text in a gap. Spacing changes nothing but whitespace, so a gap is found again in the text of
the spaced tree by what is visible before it and after it. -/

namespace MixedScript.Spacing

variable {p : Char} {after before g g' s t u v w : Chars}

-----------------------------------------------------------------------------------------
-- Finding a gap
-----------------------------------------------------------------------------------------

/-- A text that holds what is visible in another one and ends with it. -/
structure EndsVisibly (u before : Chars) : Prop where
  same : visible u = visible before
  ends : ∃ w last, u = w ++ [last] ∧ Text.isInlineBlank last = false

/-- A text that holds what is visible in another one and starts with it. -/
structure StartsVisibly (v after : Chars) : Prop where
  same : visible v = visible after
  starts : ∃ first w, v = first :: w ∧ Text.isInlineBlank first = false

/-- `GapBetween before after g s`: in the text `s` exactly `g` stands between what is visible in
`before` and what is visible in `after`. -/
def GapBetween (before after g s : Chars) : Prop :=
  ∃ u v, s = u ++ (g ++ v) ∧ EndsVisibly u before ∧ StartsVisibly v after

theorem EndsVisibly.append_left (h : EndsVisibly u before) (same : visible w = visible s)
    : EndsVisibly (w ++ u) (s ++ before) where
  same := by rw [visible_append, visible_append, same, h.same]
  ends := by
    obtain ⟨w', last, rfl, visible⟩ := h.ends
    exact ⟨w ++ w', last, (List.append_assoc _ _ _).symm, visible⟩

/-- A text that ends visibly does not go on with blanks. -/
theorem EndsVisibly.eq_nil_of_append (h : EndsVisibly (u ++ t) before)
    (same : visible u = visible before)
    : t = [] := by
  have unseen : visible t = [] := by
    have total := h.same.trans same.symm
    rw [visible_append] at total
    simpa using total
  obtain ⟨w, last, ends, shown⟩ := h.ends
  cases t using List.reverseRecOn with
  | nil => rfl
  | append_singleton t c =>
      rw [← List.append_assoc] at ends
      obtain rfl : c = last := by simpa using (List.append_inj' ends rfl).2
      simp [visible, shown] at unseen

/-- A text that starts visibly does not come after blanks. -/
theorem StartsVisibly.eq_nil_of_append (h : StartsVisibly (t ++ v) after)
    (same : visible v = visible after)
    : t = [] := by
  have unseen : visible t = [] := by
    have total := h.same.trans same.symm
    rw [visible_append] at total
    simpa using total
  obtain ⟨first, w, starts, shown⟩ := h.starts
  cases t with
  | nil => rfl
  | cons c t =>
      obtain rfl : c = first := by simpa using congrArg List.head? starts
      simp [visible, shown] at unseen

/-- There is one gap to be found. -/
theorem GapBetween.unique (h : GapBetween before after g s) (h' : GapBetween before after g' s)
    : g = g' := by
  obtain ⟨u, v, rfl, ends, starts⟩ := h
  obtain ⟨u', v', same, ends', starts'⟩ := h'
  obtain rfl : u = u' := by
    rcases List.append_eq_append_iff.mp same with ⟨t, rfl, -⟩ | ⟨t, rfl, -⟩
    · rw [ends'.eq_nil_of_append ends.same, List.append_nil]
    · rw [ends.eq_nil_of_append ends'.same, List.append_nil]
  rcases List.append_eq_append_iff.mp (List.append_cancel_left same) with ⟨t, rfl, rfl⟩ | ⟨t, rfl, rfl⟩
  · rw [starts.eq_nil_of_append starts'.same, List.append_nil]
  · rw [starts'.eq_nil_of_append starts.same, List.append_nil]

-----------------------------------------------------------------------------------------
-- The text of a tree
-----------------------------------------------------------------------------------------

variable {n d : Node} {m : Mapping}

theorem shownText_flow (form : Flow) (cs : List Node) (m : Mapping)
    : shownText p (.flow form cs m) = cs.flatMap (shownText p) := by
  have leaves : Node.leavesOf cs = cs.flatMap Node.leaves := by
    induction cs with
    | nil => rfl
    | cons c cs ih => rw [Node.leavesOf, ih, List.flatMap_cons]
  rw [shownText, Node.leaves, leaves, List.flatMap_assoc]
  rfl

/-- Spacing leaves what is visible in the text of a tree. -/
theorem visible_shownText (h : KeepsVisible n d)
    : visible (shownText p d) = visible (shownText p n) := by
  simp only [shownText, visible, List.filter_flatMap]
  refine flatMap_leaves_of_keepsVisible ?_ rfl h
  intro n d same
  cases same with
  | text same => exact same
  | math | refl => rfl

/-- The text of a tree ends with the text that is its last leaf. -/
theorem shownText_of_lastLeaf (found : d.lastLeaf = .ok (.text s m))
    : ∃ w, shownText p d = w ++ s := by
  obtain ⟨before, leaves⟩ := Node.leaves_of_lastLeaf found
  rw [shownText, leaves, List.flatMap_append]
  exact ⟨_, congrArg _ (List.append_nil s)⟩

theorem shownText_of_firstLeaf (found : d.firstLeaf = .ok (.text s m))
    : ∃ w, shownText p d = s ++ w := by
  obtain ⟨rest, leaves⟩ := Node.leaves_of_firstLeaf found
  rw [shownText, leaves, List.flatMap_cons]
  exact ⟨_, rfl⟩

/-- The text of a tree ends with the placeholder if its last leaf is a token. -/
theorem shownText_of_lastToken {t : Node} (found : d.lastLeaf = .ok t) (token : isToken t = true)
    : ∃ w, shownText p d = w ++ [p] := by
  obtain ⟨before, leaves⟩ := Node.leaves_of_lastLeaf found
  rw [shownText, leaves, List.flatMap_append]
  cases t <;> first | exact ⟨_, rfl⟩ | cases token

theorem shownText_of_firstToken {t : Node} (found : d.firstLeaf = .ok t) (token : isToken t = true)
    : ∃ w, shownText p d = p :: w := by
  obtain ⟨rest, leaves⟩ := Node.leaves_of_firstLeaf found
  rw [shownText, leaves, List.flatMap_cons]
  cases t <;> first | exact ⟨_, rfl⟩ | cases token

-----------------------------------------------------------------------------------------
-- The text of a row
-----------------------------------------------------------------------------------------

/-- The text of a row, with its spaces. -/
def rowText (p : Char) (nodes : Row) : Chars :=
  (weave nodes).flatMap (shownText p)

theorem rowText_cons (n : Node) (space : Bool) (nodes : Row)
    : rowText p ((n, space) :: nodes) = shownText p n ++ (gap space ++ rowText p nodes) := by
  cases space <;> rfl

theorem visible_rowText {cs : List Node} {nodes : Row} (h : KeepsVisibleRow cs nodes)
    : visible (rowText p nodes) = visible (cs.flatMap (shownText p)) := by
  have kept := @visible_shownText p (.flow .paragraph cs []) (.flow .paragraph (weave nodes) [])
    (.flow h)
  rwa [shownText_flow, shownText_flow] at kept

end MixedScript.Spacing
