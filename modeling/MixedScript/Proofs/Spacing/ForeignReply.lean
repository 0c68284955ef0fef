import MixedScript.Proofs.Spacing.Alignment
import MixedScript.Proofs.Spacing.Course

/-! Rules that reply with values of foreign types. The first such reply stops the run, and nothing
of it is written: every leaf still holds a text, and the tree is the same whatever the foreign
values were. -/

namespace MixedScript.Spacing

variable {rules rules' : Rules} {options : SpacingOptions} {carry : Carry} {left right : Node}

-----------------------------------------------------------------------------------------
-- Leaves that hold text
-----------------------------------------------------------------------------------------

/-- Whether spacing writes to the leaves of a kind. -/
def isWritten (kind : Kind) : Bool :=
  kind == .text || kind == .mathInline || kind == .mathBlock

/-- All leaves to which spacing writes hold a text, and so do those in notes. -/
inductive HoldsText : Node → Prop
  | group {form cs m} (each : ∀ c ∈ cs, HoldsText c) : HoldsText (.group form cs m)
  | flow {form cs m} (each : ∀ c ∈ cs, HoldsText c) : HoldsText (.flow form cs m)
  | note {i cs m} (each : ∀ c ∈ cs, HoldsText c) : HoldsText (.note i cs m)
  | text {s m} : HoldsText (.text s m)
  | math {form s m} : HoldsText (.math form s m)
  | code {s m} : HoldsText (.code s m)
  | inert {leaf m} (given : ∀ kind, leaf = .unset kind → isWritten kind = false)
      : HoldsText (.inert leaf m)

theorem HoldsText.textChange {f : Node → Node} (change : Node.TextChange f) {n : Node}
    (leaf : n.isContainer = false) (h : HoldsText n)
    : HoldsText (f n) := by
  by_cases text : ∃ s m, n = .text s m
  · obtain ⟨s, m, rfl⟩ := text
    obtain ⟨t, changed⟩ := change.text s m
    rw [changed]
    exact .text
  · rw [change.other n leaf fun s m same => text ⟨s, m, same⟩]
    exact h

mutual

theorem HoldsText.mapFirstLeaf {f : Node → Node} (change : Node.TextChange f) (n : Node)
    (h : HoldsText n)
    : HoldsText (n.mapFirstLeaf f) := by
  cases n with
  | group form cs m =>
      cases h with
      | group each => exact .group (mapFirstLeafOf change cs each)
  | flow form cs m =>
      cases h with
      | flow each => exact .flow (mapFirstLeafOf change cs each)
  | text | math | code | note | inert => exact h.textChange change rfl
termination_by sizeOf n

theorem HoldsText.mapFirstLeafOf {f : Node → Node} (change : Node.TextChange f) (cs : List Node)
    (each : ∀ c ∈ cs, HoldsText c)
    : ∀ c ∈ Node.mapFirstLeafOf f cs, HoldsText c := by
  cases cs with
  | nil => exact each
  | cons c cs =>
      have head := mapFirstLeaf change c (each c (.head _))
      rintro d mem
      rcases List.mem_cons.mp mem with rfl | later
      · exact head
      · exact each d (.tail _ later)
termination_by sizeOf cs

end

mutual

theorem HoldsText.mapLastLeaf {f : Node → Node} (change : Node.TextChange f) (n : Node)
    (h : HoldsText n)
    : HoldsText (n.mapLastLeaf f) := by
  cases n with
  | group form cs m =>
      cases h with
      | group each => exact .group (mapLastLeafOf change cs each)
  | flow form cs m =>
      cases h with
      | flow each => exact .flow (mapLastLeafOf change cs each)
  | text | math | code | note | inert => exact h.textChange change rfl
termination_by sizeOf n

theorem HoldsText.mapLastLeafOf {f : Node → Node} (change : Node.TextChange f) (cs : List Node)
    (each : ∀ c ∈ cs, HoldsText c)
    : ∀ c ∈ Node.mapLastLeafOf f cs, HoldsText c := by
  match cs with
  | [] => exact each
  | [c] =>
      intro d mem
      obtain rfl := List.mem_singleton.mp mem
      exact mapLastLeaf change c (each c (.head _))
  | c :: next :: rest =>
      have tail := mapLastLeafOf change (next :: rest) (fun d held => each d (.tail _ held))
      intro d mem
      rcases List.mem_cons.mp mem with rfl | later
      · exact each d (.head _)
      · exact tail d later
termination_by sizeOf cs

end

/-- A boundary writes nothing but texts. -/
theorem HoldsText.resolve {b : Resolved} (hl : HoldsText left) (hr : HoldsText right)
    (h : resolve rules carry left right = .ok b)
    : HoldsText b.left ∧ HoldsText b.right := by
  obtain ⟨leftShape, rightShape⟩ := resolve_shape h
  constructor
  · rcases leftShape with same | ⟨s, changed⟩
    · exact same ▸ hl
    · exact changed ▸ hl.mapLastLeaf (Node.textChange_withText s) left
  · rcases rightShape with same | ⟨s, changed⟩
    · exact same ▸ hr
    · exact changed ▸ hr.mapFirstLeaf (Node.textChange_withText s) right

theorem HoldsText.repay {n : Node} (h : HoldsText n) (owed : Bool)
    : HoldsText (repay owed n) := by
  cases owed with
  | false => exact h
  | true => exact h.mapFirstLeaf textChange_repayLeaf n

/-- Spaces that are put between children are texts. -/
theorem HoldsText.weave {nodes : Row} (each : ∀ c ∈ bare nodes, HoldsText c)
    : ∀ c ∈ weave nodes, HoldsText c := by
  induction nodes with
  | nil => exact each
  | cons node nodes ih =>
      obtain ⟨n, space⟩ := node
      have rest := ih fun c held => each c (.tail _ held)
      intro c mem
      rw [weave_cons, List.mem_cons, List.mem_append] at mem
      rcases mem with rfl | between | later
      · exact each c (.head _)
      · cases space with
        | false => cases between
        | true =>
            obtain rfl := List.mem_singleton.mp between
            exact .text
      · exact rest c later

theorem HoldsText.tidyLeaf {question : Question} {reply : Reply Chars} {old : Node}
    {new : Chars → Node} (h : HoldsText old) (written : ∀ s, HoldsText (new s))
    : HoldsText (tidyLeaf question reply old new).result := by
  unfold Spacing.tidyLeaf
  cases expectText question reply with
  | ok s => exact written s
  | error => exact h

mutual

/-- A run leaves every leaf with a text, wherever it stops. -/
theorem HoldsText.formatNode (n : Node) (h : HoldsText n)
    : HoldsText (formatNode rules options n).result := by
  cases n with
  | group form cs m =>
      cases h with
      | group each => exact .group (formatEach cs each)
  | flow form cs m =>
      cases h with
      | flow each => exact .flow (formatFlow form.kind cs each)
  | text s m =>
      simp only [Spacing.formatNode]
      split
      · exact h.tidyLeaf fun _ => .text
      · exact h
  | math form s m =>
      simp only [Spacing.formatNode]
      split
      · exact h.tidyLeaf fun _ => .math
      · exact h
  | code | note | inert => exact h
termination_by sizeOf n

theorem HoldsText.formatEach (cs : List Node) (each : ∀ c ∈ cs, HoldsText c)
    : ∀ c ∈ (formatEach rules options cs).result, HoldsText c := by
  cases cs with
  | nil => exact each
  | cons c cs =>
      have head : HoldsText (Spacing.formatNode rules options c).result :=
        formatNode c (each c (.head _))
      have untouched := fun d held => each d (.tail c held)
      rw [Spacing.formatEach]
      split
      · exact List.forall_mem_cons.mpr ⟨head, untouched⟩
      · exact List.forall_mem_cons.mpr ⟨head, formatEach cs untouched⟩
termination_by sizeOf cs

theorem HoldsText.formatFlow (kind : Kind) (cs : List Node) (each : ∀ c ∈ cs, HoldsText c)
    : ∀ c ∈ (formatFlow rules options kind cs).result, HoldsText c := by
  cases cs with
  | nil => exact each
  | cons c cs =>
      have head : HoldsText (Spacing.formatNode rules options c).result :=
        formatNode c (each c (.head _))
      have untouched := fun d held => each d (.tail c held)
      rw [Spacing.formatFlow]
      split
      · exact List.forall_mem_cons.mpr ⟨head, untouched⟩
      · have row := formatRest kind .empty _ head cs untouched
        dsimp only
        split
        · exact row
        · exact weave row
termination_by sizeOf cs

theorem HoldsText.formatRest (kind : Kind) (carry : Carry) (before : Node) (h : HoldsText before)
    (cs : List Node) (each : ∀ c ∈ cs, HoldsText c)
    : ∀ c ∈ bare (formatRest rules options kind carry before cs).result, HoldsText c := by
  cases cs with
  | nil => exact List.forall_mem_singleton.mpr (h.repay carry.owed)
  | cons c cs =>
      have next : HoldsText (Spacing.formatNode rules options c).result :=
        formatNode c (each c (.head _))
      have untouched := fun d held => each d (.tail c held)
      have stopped : ∀ d ∈ bare ((before, false)
          :: ((Spacing.formatNode rules options c).result, false)
          :: cs.map (fun c => (c, false))), HoldsText d := by
        simpa [bare] using ⟨h, next, untouched⟩
      rw [Spacing.formatRest]
      split
      · exact stopped
      · split
        · exact stopped
        · next resolved =>
            obtain ⟨leftHolds, rightHolds⟩ := h.resolve next resolved
            exact List.forall_mem_cons.mpr ⟨leftHolds, formatRest kind _ _ rightHolds cs untouched⟩
termination_by sizeOf cs

end

-----------------------------------------------------------------------------------------
-- Rules that differ in foreign values
-----------------------------------------------------------------------------------------

/-- Rules that give the same replies wherever these are of the right types, and foreign ones to the
same questions. -/
structure Alike (rules rules' : Rules) : Prop where
  text : ∀ s,
    (expectText .text (rules'.text s)).toOption = (expectText .text (rules.text s)).toOption
  math : ∀ s,
    (expectText .math (rules'.math s)).toOption = (expectText .math (rules.math s)).toOption
  wants : ∀ l r had,
    (expectDecision (rules'.wants l r had)).toOption
      = (expectDecision (rules.wants l r had)).toOption
  join : ∀ l r owed,
    (expectBoundary (rules'.join l r owed)).toOption
      = (expectBoundary (rules.join l r owed)).toOption

theorem toOption_bind {ε α β : Type} (x : Except ε α) (f : α → Except ε β)
    : (x >>= f).toOption = x.toOption.bind (fun a => (f a).toOption) := by
  cases x <;> rfl

theorem toOption_pure {ε α : Type} (a : α)
    : (pure a : Except ε α).toOption = some a := rfl

theorem Alike.keepsLeft (h : Alike rules rules') (b : Boundary Bool)
    : (keepsLeft rules' carry left b).toOption = (keepsLeft rules carry left b).toOption := by
  unfold Spacing.keepsLeft
  split
  · exact h.wants ..
  · rfl

/-- A boundary is resolved alike, or by neither rules. -/
theorem Alike.resolve (h : Alike rules rules')
    : (resolve rules' carry left right).toOption = (resolve rules carry left right).toOption := by
  cases hl : left.lastLeaf with
  | error => simp only [Spacing.resolve, hl]; rfl
  | ok l =>
      cases hr : right.firstLeaf with
      | error => simp only [Spacing.resolve, hl, hr]; rfl
      | ok r =>
          rcases touching l r with ⟨s, m, t, m', rfl, rfl⟩ | ⟨s, m, rfl, token⟩ | ⟨token, s, m, rfl⟩
            | apart
          · simp only [resolve_texts hl hr, resolveTexts, toOption_bind, h.join, h.keepsLeft,
              toOption_pure]
          · simp only [resolve_before_token hl hr token, spaceBeforeToken, toOption_bind, h.wants,
              toOption_pure]
          · simp only [resolve_after_token hl hr token, spaceAfterToken, toOption_bind, h.wants,
              toOption_pure]
          · rw [resolve_apart hl hr apart, resolve_apart hl hr apart]

/-- Two computations that give the same value, or none. -/
theorem both_of_toOption_eq {ε α : Type} {x y : Except ε α} (h : y.toOption = x.toOption)
    : (∃ a, x = .ok a ∧ y = .ok a) ∨ ∃ e e', x = .error e ∧ y = .error e' := by
  cases x with
  | error e =>
      cases y with
      | error e' => exact .inr ⟨e, e', rfl, rfl⟩
      | ok => cases h
  | ok a => exact .inl ⟨a, rfl, ok_of_toOption h⟩

/-- Two runs that make the same of their object and are both stopped, or neither. -/
structure SameWork {α : Type} (r r' : Run α) : Prop where
  result : r'.result = r.result
  stopped : r'.fault.isSome = r.fault.isSome

theorem SameWork.refl {α : Type} (r : Run α)
    : SameWork r r :=
  ⟨rfl, rfl⟩

theorem SameWork.faults {α : Type} {r r' : Run α} (h : SameWork r r')
    : (r.fault = none ∧ r'.fault = none) ∨ ∃ f f', r.fault = some f ∧ r'.fault = some f' := by
  have stopped := h.stopped
  cases ran : r.fault with
  | none =>
      rw [ran, Option.isSome_none, Option.isSome_eq_false_iff, Option.isNone_iff_eq_none] at stopped
      exact .inl ⟨rfl, stopped⟩
  | some f =>
      rw [ran, Option.isSome_some, Option.isSome_iff_exists] at stopped
      obtain ⟨f', stopped⟩ := stopped
      exact .inr ⟨f, f', rfl, stopped⟩

theorem sameWork_tidyLeaf {question : Question} {reply reply' : Reply Chars} {old : Node}
    {new : Chars → Node}
    (h : (expectText question reply').toOption = (expectText question reply).toOption)
    : SameWork (tidyLeaf question reply old new) (tidyLeaf question reply' old new) := by
  rcases both_of_toOption_eq h with ⟨s, same, same'⟩ | ⟨f, f', failed, failed'⟩
  · simp only [tidyLeaf, same, same']
    exact .refl _
  · simp only [tidyLeaf, failed, failed']
    exact ⟨rfl, rfl⟩

mutual

/-- Rules that differ in foreign values make the same of a node. By induction on the tree; where one
run is stopped, so is the other, and both leave what comes after as it is. -/
theorem Alike.formatNode (h : Alike rules rules') (n : Node)
    : SameWork (formatNode rules options n) (formatNode rules' options n) := by
  cases n with
  | group form cs m =>
      have inner := h.formatEach cs
      exact ⟨congrArg (Node.group form · m) inner.result, inner.stopped⟩
  | flow form cs m =>
      have inner := h.formatFlow form.kind cs
      exact ⟨congrArg (Node.flow form · m) inner.result, inner.stopped⟩
  | text s m =>
      simp only [Spacing.formatNode]
      split
      · exact sameWork_tidyLeaf (h.text s)
      · exact .refl _
  | math form s m =>
      simp only [Spacing.formatNode]
      split
      · exact sameWork_tidyLeaf (h.math s)
      · exact .refl _
  | code | note | inert => exact .refl _
termination_by sizeOf n

theorem Alike.formatEach (h : Alike rules rules') (cs : List Node)
    : SameWork (formatEach rules options cs) (formatEach rules' options cs) := by
  cases cs with
  | nil => exact .refl _
  | cons c cs =>
      have head : SameWork (Spacing.formatNode rules options c) _ := h.formatNode c
      have tail : SameWork (Spacing.formatEach rules options cs) _ := h.formatEach cs
      rcases head.faults with ⟨well, well'⟩ | ⟨f, f', failed, failed'⟩
      · simp only [Spacing.formatEach, well, well', head.result, tail.result]
        exact ⟨rfl, tail.stopped⟩
      · simp only [Spacing.formatEach, failed, failed', head.result]
        exact ⟨rfl, rfl⟩
termination_by sizeOf cs

theorem Alike.formatFlow (h : Alike rules rules') (kind : Kind) (cs : List Node)
    : SameWork (formatFlow rules options kind cs) (formatFlow rules' options kind cs) := by
  cases cs with
  | nil => exact .refl _
  | cons c cs =>
      have head : SameWork (Spacing.formatNode rules options c) _ := h.formatNode c
      rcases head.faults with ⟨well, well'⟩ | ⟨f, f', failed, failed'⟩
      · have row : SameWork (Spacing.formatRest rules options kind .empty
            (Spacing.formatNode rules options c).result cs) _ := h.formatRest kind .empty _ cs
        simp only [Spacing.formatFlow, well, well', head.result, row.result, row.stopped]
        exact ⟨rfl, row.stopped⟩
      · simp only [Spacing.formatFlow, failed, failed', head.result]
        exact ⟨rfl, rfl⟩
termination_by sizeOf cs

theorem Alike.formatRest (h : Alike rules rules') (kind : Kind) (carry : Carry) (before : Node)
    (cs : List Node)
    : SameWork (formatRest rules options kind carry before cs)
        (formatRest rules' options kind carry before cs) := by
  cases cs with
  | nil => exact .refl _
  | cons c cs =>
      have head : SameWork (Spacing.formatNode rules options c) _ := h.formatNode c
      rcases head.faults with ⟨well, well'⟩ | ⟨f, f', failed, failed'⟩
      · have joint : (Spacing.resolve rules' carry before
            (Spacing.formatNode rules options c).result).toOption = _ := h.resolve
        rcases both_of_toOption_eq joint with ⟨b, same, same'⟩ | ⟨f, f', failed, failed'⟩
        · have row : SameWork (Spacing.formatRest rules options kind b.carry b.right cs) _ :=
            h.formatRest kind b.carry b.right cs
          simp only [Spacing.formatRest, well, well', head.result, same, same', row.result]
          exact ⟨rfl, row.stopped⟩
        · simp only [Spacing.formatRest, well, well', head.result, failed, failed']
          exact ⟨rfl, rfl⟩
      · simp only [Spacing.formatRest, failed, failed', head.result]
        exact ⟨rfl, rfl⟩
termination_by sizeOf cs

end

-----------------------------------------------------------------------------------------
-- Runs
-----------------------------------------------------------------------------------------

/-- The error about a reply names the question. -/
theorem toError_broken (question : Question) (complaint : Complaint)
    : ∃ message,
        (Fault.broken question complaint).toError = .collaborator message (some question.name) := by
  cases complaint <;> exact ⟨_, rfl⟩

/-- Whatever rules reply, a run leaves a text in every leaf that had one, and the tree is the same
with other foreign values. The first question that gets a foreign reply stops the run with an error
that names it. Nothing else stops a run but a container without children; and replies to questions
that were not asked are of no matter. -/
theorem foreign_replies_stay_out (rules : Rules) (options : SpacingOptions) (tree : Node)
    (held : HoldsText tree)
    : let run := format rules options tree
      let moves := nodeMoves rules options tree
      HoldsText run.result
      ∧ (∀ rules', Alike rules rules' → (format rules' options tree).result = run.result)
      ∧ (∀ rules', Agree rules rules' moves → format rules' options tree = run)
      ∧ (∀ q complaint, .ask q ∈ moves → q.complaint? rules = some complaint
          → ∃ f message, run.fault = some f ∧ f = .broken q.question complaint
            ∧ f.toError = .collaborator message (some q.question.name))
      ∧ ∀ f, run.fault = some f
        → (∃ d, f = .deadEnd d ∧ f.toError = .emptyContainer d.kind.name d.edge.name)
          ∨ ∃ q complaint message,
            .ask q ∈ moves ∧ q.complaint? rules = some complaint
            ∧ f = .broken q.question complaint
            ∧ f.toError = .collaborator message (some q.question.name) := by
  intro run moves
  have course : Course rules moves run.fault := course_formatNode tree
  refine ⟨held.formatNode tree, fun _ alike => (alike.formatNode tree).result,
    fun _ agree => formatNode_agree tree agree, ?asked, ?stopped⟩
  case asked =>
    intro q complaint asked foreign
    obtain ⟨message, error⟩ := toError_broken q.question complaint
    refine ⟨_, message, course.fault_of_mem asked ?_, rfl, error⟩
    rw [Move.fault?, foreign]
    rfl
  case stopped =>
    intro f stopped
    rw [stopped] at course
    obtain ⟨move, mem, fails⟩ := course.exists_move
    cases move with
    | descend edge n =>
        obtain ⟨d, -, rfl⟩ := Option.map_eq_some_iff.mp fails
        exact .inl ⟨d, rfl, rfl⟩
    | ask q =>
        obtain ⟨complaint, foreign, rfl⟩ := Option.map_eq_some_iff.mp fails
        obtain ⟨message, error⟩ := toError_broken q.question complaint
        exact .inr ⟨q, complaint, message, mem, foreign, rfl, error⟩

/-- The decision is asked for the gap before the code only, and its number is not written: the text
has been tidied, and the blanks behind it are still there. -/
theorem foreign_decision_stays_out
    : let rules := { Rules.standard with wants := fun _ _ _ => .foreign "int" true }
      let tree := Node.flow .paragraph [.text ['中', 'a', ' ', ' '] [], .code ['x'] []] []
      let tidied := Node.flow .paragraph [.text ['中', ' ', 'a', ' ', ' '] [], .code ['x'] []] []
      HoldsText tree
      ∧ HoldsText tidied
      ∧ (format rules {} tree).result = tidied
      ∧ (format rules {} tree).fault = some (.broken .wants (.received "int"))
      ∧ (format { rules with wants := fun _ _ _ => .foreign "NoneType" false } {} tree).result
        = tidied := by
  intro rules tree tidied
  have held : HoldsText tree := .flow (by simpa using ⟨.text, .code⟩)
  obtain ⟨holds, same, -, asked, -⟩ := foreign_replies_stay_out rules {} tree held
  have made : (format rules {} tree).result = tidied := rfl
  refine ⟨held, made ▸ holds, made, ?_, (same _ ?_).trans made⟩
  · have gap : .ask (.wants ['中', ' ', 'a'] sentinel true) ∈ nodeMoves rules {} tree :=
      List.mem_of_getLast? rfl
    obtain ⟨f, message, stopped, rfl, -⟩ := asked _ (.received "int") gap rfl
    exact stopped
  · exact ⟨fun _ => rfl, fun _ => rfl, fun _ _ _ => rfl, fun _ _ _ => rfl⟩

end MixedScript.Spacing
