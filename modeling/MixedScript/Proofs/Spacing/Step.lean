import MixedScript.Proofs.Document.EdgeLeaf
import MixedScript.Proofs.Result
import MixedScript.Spacing.Transform
import Mathlib.Logic.Basic

/-! What one step of spacing does when nothing stops it: how a boundary is resolved, and how the
work on a row of children goes on from one child to the next. -/

namespace MixedScript.Spacing

variable {rules : Rules} {options : SpacingOptions} {carry : Carry} {left right : Node}

theorem mapError_ok {ε ε' α : Type} (f : ε → ε') (a : α)
    : (Except.ok a).mapError f = .ok a := rfl

-----------------------------------------------------------------------------------------
-- Boundaries
-----------------------------------------------------------------------------------------

/-- Two texts at a boundary are joined. -/
theorem resolve_texts {l r : Chars} {m m' : Mapping} (hl : left.lastLeaf = .ok (.text l m))
    (hr : right.firstLeaf = .ok (.text r m'))
    : resolve rules carry left right = resolveTexts rules carry left right l r := by
  simp only [resolve, hl, hr, mapError_ok]
  rfl

/-- Rules that follow the decision table join two runs as it says. -/
theorem join_ofClasses (classOf : Char → CharClass) (l r : Chars) (owed : Bool)
    : expectBoundary ((Rules.ofClasses classOf).join l r owed)
      = .ok (joinRuns (spaceBetween classOf) false l r owed) := by
  simp only [Rules.ofClasses, Rules.ofDecision, expectBoundary, joinRuns]
  cases (trimRight l).isEmpty <;> cases (trimLeft r).isEmpty <;> rfl

theorem join_standard (l r : Chars) (owed : Bool)
    : expectBoundary (Rules.standard.join l r owed)
      = .ok (joinRuns (spaceBetween classify) false l r owed) :=
  join_ofClasses classify l r owed

/-- A text before a token changes alone, and the boundary hands nothing on. -/
theorem resolve_before_token {l : Chars} {m : Mapping} {r : Node}
    (hl : left.lastLeaf = .ok (.text l m))
    (hr : right.firstLeaf = .ok r) (token : isToken r = true)
    : resolve rules carry left right
      = do
          let s ← spaceBeforeToken rules l
          return ⟨left.mapLastLeaf (Node.withText s), right, false, .empty⟩ := by
  cases r <;> simp only [isToken, Bool.false_eq_true] at token
  all_goals
    simp only [resolve, hl, hr, mapError_ok]
    rfl

/-- A text after a token changes alone, and the boundary hands nothing on. -/
theorem resolve_after_token {l : Node} {r : Chars} {m : Mapping} (hl : left.lastLeaf = .ok l)
    (hr : right.firstLeaf = .ok (.text r m)) (token : isToken l = true)
    : resolve rules carry left right
      = do
          let s ← spaceAfterToken rules r
          return ⟨left, right.mapFirstLeaf (Node.withText s), false, .empty⟩ := by
  cases l <;> simp only [isToken, Bool.false_eq_true] at token
  all_goals
    simp only [resolve, hl, hr, mapError_ok]
    rfl

/-- Neither two texts nor a text and a token touch a boundary. -/
def Apart (l r : Node) : Prop :=
  ¬ (isTextRun l = true ∧ (isTextRun r = true ∨ isToken r = true))
    ∧ ¬ (isToken l = true ∧ isTextRun r = true)

/-- A boundary is touched by two texts, by a text and a token in either order, or by leaves that have
nothing to resolve. -/
theorem touching (l r : Node)
    : (∃ s m t m', l = .text s m ∧ r = .text t m')
      ∨ (∃ s m, l = .text s m ∧ isToken r = true)
      ∨ (isToken l = true ∧ ∃ s m, r = .text s m)
      ∨ Apart l r := by
  cases l <;> cases r <;> simp [Apart, isTextRun, isToken]

/-- A boundary between leaves that have nothing to resolve changes nothing and hands nothing on. -/
theorem resolve_apart {l r : Node} (hl : left.lastLeaf = .ok l) (hr : right.firstLeaf = .ok r)
    (apart : Apart l r)
    : resolve rules carry left right = .ok ⟨left, right, false, .empty⟩ := by
  simp only [resolve, hl, hr, mapError_ok]
  obtain ⟨noText, noToken⟩ := apart
  cases l <;> cases r <;> simp [isTextRun, isToken] at noText noToken <;> rfl

/-- All that a boundary can do between two children once nothing has stopped it. -/
inductive Resolves (rules : Rules) (carry : Carry) (left right : Node) : Resolved → Prop
  /-- Two texts are joined. -/
  | texts {l r m m' j kept} (hl : left.lastLeaf = .ok (.text l m))
      (hr : right.firstLeaf = .ok (.text r m'))
    (joined : expectBoundary (rules.join l r carry.owed) = .ok j)
    (decided : keepsLeft rules carry left j = .ok kept)
    : Resolves rules carry left right (joinedTexts carry left right j kept)
  /-- A text before a token changes alone. -/
  | beforeToken {l m r s} (hl : left.lastLeaf = .ok (.text l m)) (hr : right.firstLeaf = .ok r)
    (token : isToken r = true) (spaced : spaceBeforeToken rules l = .ok s)
    : Resolves rules carry left right ⟨left.mapLastLeaf (Node.withText s), right, false, .empty⟩
  /-- A text after a token changes alone. -/
  | afterToken {l r m s} (hl : left.lastLeaf = .ok l) (hr : right.firstLeaf = .ok (.text r m))
    (token : isToken l = true) (spaced : spaceAfterToken rules r = .ok s)
    : Resolves rules carry left right ⟨left, right.mapFirstLeaf (Node.withText s), false, .empty⟩
  /-- Nothing changes anywhere else. -/
  | apart {l r} (hl : left.lastLeaf = .ok l) (hr : right.firstLeaf = .ok r) (apart : Apart l r)
    : Resolves rules carry left right ⟨left, right, false, .empty⟩

/-- A resolved boundary has found a leaf on either side. -/
theorem leaves_of_resolve_ok {b : Resolved} (h : resolve rules carry left right = .ok b)
    : (∃ l, left.lastLeaf = .ok l) ∧ ∃ r, right.firstLeaf = .ok r := by
  obtain ⟨l, hl, h⟩ := bind_eq_ok.mp h
  obtain ⟨r, hr, -⟩ := bind_eq_ok.mp h
  exact ⟨⟨l, ok_of_mapError hl⟩, r, ok_of_mapError hr⟩

/-- A boundary that has been resolved has done one of the four things, by the kinds of the leaves
that touch it. -/
theorem resolves_of_ok {b : Resolved} (h : resolve rules carry left right = .ok b)
    : Resolves rules carry left right b := by
  obtain ⟨⟨l, hl⟩, r, hr⟩ := leaves_of_resolve_ok h
  rcases touching l r with ⟨s, m, t, m', rfl, rfl⟩ | ⟨s, m, rfl, token⟩ | ⟨token, s, m, rfl⟩ | apart
  · rw [resolve_texts hl hr] at h
    obtain ⟨j, joined, h⟩ := bind_eq_ok.mp h
    obtain ⟨kept, decided, h⟩ := bind_eq_ok.mp h
    obtain rfl := Except.ok.inj h
    exact .texts hl hr joined decided
  · rw [resolve_before_token hl hr token] at h
    obtain ⟨s, spaced, h⟩ := bind_eq_ok.mp h
    obtain rfl := Except.ok.inj h
    exact .beforeToken hl hr token spaced
  · rw [resolve_after_token hl hr token] at h
    obtain ⟨s, spaced, h⟩ := bind_eq_ok.mp h
    obtain rfl := Except.ok.inj h
    exact .afterToken hl hr token spaced
  · rw [resolve_apart hl hr apart] at h
    obtain rfl := Except.ok.inj h
    exact .apart hl hr apart

/-- A boundary changes nothing but the content of the text that ends the left child and of the text
that starts the right child. -/
theorem resolve_shape {b : Resolved} (h : resolve rules carry left right = .ok b)
    : (b.left = left ∨ ∃ s, b.left = left.mapLastLeaf (Node.withText s))
      ∧ (b.right = right ∨ ∃ s, b.right = right.mapFirstLeaf (Node.withText s)) := by
  cases resolves_of_ok h with
  | texts => exact ⟨.inr ⟨_, rfl⟩, .inr ⟨_, rfl⟩⟩
  | beforeToken => exact ⟨.inr ⟨_, rfl⟩, .inl rfl⟩
  | afterToken => exact ⟨.inl rfl, .inr ⟨_, rfl⟩⟩
  | apart => exact ⟨.inl rfl, .inl rfl⟩

-----------------------------------------------------------------------------------------
-- Rows of children
-----------------------------------------------------------------------------------------

theorem textChange_repayLeaf
    : Node.TextChange repayLeaf where
  text s m := by cases s <;> exact ⟨_, rfl⟩
  other n _ h := by
    unfold repayLeaf
    split
    · exact absurd rfl (h _ _)
    · rfl

/-- A group's child that nothing stops is followed by the others. -/
theorem formatEach_cons {n : Node} {ns : List Node}
    (h : (formatEach rules options (n :: ns)).fault = none)
    : (formatNode rules options n).fault = none
      ∧ (formatEach rules options ns).fault = none
      ∧ formatEach rules options (n :: ns)
        = ⟨(formatNode rules options n).result :: (formatEach rules options ns).result,
            (formatNode rules options n).splices ++ (formatEach rules options ns).splices,
            none⟩ := by
  cases stopped : (formatNode rules options n).fault with
  | some f => simp [formatEach, stopped] at h
  | none =>
      simp only [formatEach, stopped] at h
      exact ⟨rfl, h, by simp only [formatEach, stopped, h]⟩

/-- The first child of a flow is followed by the rest of its row, which is then woven. -/
theorem formatFlow_cons {kind : Kind} {n : Node} {ns : List Node}
    (h : (formatFlow rules options kind (n :: ns)).fault = none)
    : let row := formatRest rules options kind .empty (formatNode rules options n).result ns
      (formatNode rules options n).fault = none
      ∧ row.fault = none
      ∧ formatFlow rules options kind (n :: ns)
        = ⟨weave row.result, (formatNode rules options n).splices ++ row.splices, none⟩ := by
  cases stopped : (formatNode rules options n).fault with
  | some f => simp [formatFlow, stopped] at h
  | none =>
      simp only [formatFlow, stopped] at h
      exact ⟨rfl, h, by simp [formatFlow, stopped, h]⟩

/-- A further child of a flow is spaced itself, then the boundary before it is resolved, and the row
goes on from what the boundary hands on. -/
theorem formatRest_cons {kind : Kind} {before n : Node} {ns : List Node}
    (h : (formatRest rules options kind carry before (n :: ns)).fault = none)
    : ∃ b,
        (formatNode rules options n).fault = none
        ∧ resolve rules carry before (formatNode rules options n).result = .ok b
        ∧ (formatRest rules options kind b.carry b.right ns).fault = none
        ∧ formatRest rules options kind carry before (n :: ns)
          = ⟨(b.left, b.space) :: (formatRest rules options kind b.carry b.right ns).result,
              (formatNode rules options n).splices
                ++ (if b.space then [⟨kind, b.left.kind, b.right.kind⟩] else [])
                ++ (formatRest rules options kind b.carry b.right ns).splices,
              none⟩ := by
  cases stopped : (formatNode rules options n).fault with
  | some f => simp [formatRest, stopped] at h
  | none =>
      cases resolved : resolve rules carry before (formatNode rules options n).result with
      | error f => simp [formatRest, stopped, resolved] at h
      | ok b =>
          simp only [formatRest, stopped, resolved] at h
          exact ⟨b, rfl, rfl, h, by simp only [formatRest, stopped, resolved, h]⟩

/-- The leaves of a woven row: those of its first child, then the space after it, then those of the
rest. -/
theorem leavesOf_weave_cons (n : Node) (space : Bool) (nodes : Row)
    : Node.leavesOf (weave ((n, space) :: nodes))
      = n.leaves ++ ((if space then [Node.space] else []) ++ Node.leavesOf (weave nodes)) := by
  cases space <;> simp [weave, Node.leavesOf, Node.leaves, Node.space]

end MixedScript.Spacing
