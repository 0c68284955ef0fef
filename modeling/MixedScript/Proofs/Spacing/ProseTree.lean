import MixedScript.Proofs.Spacing.Frame
import MixedScript.Proofs.Spacing.Settling

/-! Trees of prose under the usual rules. Spacing that nothing stops brings every leaf to where its
seat settles, however deep the leaf lies and however many boundaries touch it on the way. -/

namespace MixedScript.Spacing

/-- What spacing sees of a leaf, if it takes part in spacing. -/
def face? : Node → Option Face
  | .text s _ => some (.text s)
  | .math .. | .code .. => some .token
  | _ => none

/-- A row of leaves, as spacing sees it. -/
def Shows (leaves : List Node) (faces : List Face) : Prop :=
  leaves.map face? = faces.map some

variable {options : SpacingOptions} {carry : Carry} {left right : Node} {b : Resolved}
  {leaves more : List Node} {faces others front rest : List Face} {f now r : Face}

-----------------------------------------------------------------------------------------
-- Rows of leaves
-----------------------------------------------------------------------------------------

theorem Shows.append (h : Shows leaves faces) (h' : Shows more others)
    : Shows (leaves ++ more) (faces ++ others) := by
  simp only [Shows, List.map_append] at *
  rw [h, h']

theorem shows_cons {n : Node}
    : Shows (n :: leaves) (f :: rest) ↔ face? n = some f ∧ Shows leaves rest := by
  simp [Shows]

theorem shows_concat {n : Node}
    : Shows (leaves ++ [n]) (front ++ [now]) ↔ Shows leaves front ∧ face? n = some now := by
  simp only [Shows, List.map_append, List.map_cons, List.map_nil]
  refine ⟨fun h => ?_, fun ⟨h, hn⟩ => by rw [h, hn]⟩
  obtain ⟨same, last⟩ := List.append_inj' h rfl
  exact ⟨same, (List.cons.inj last).1⟩

/-- What ends a row of leaves on the left of a boundary is the leaf that a descent finds. -/
theorem shows_lastLeaf {l : Node} (h : Shows left.leaves (front ++ [now]))
    (found : left.lastLeaf = .ok l)
    : face? l = some now
      ∧ ∀ g, Node.LeafMap g → ∀ changed, face? (g l) = some changed →
          Shows (left.mapLastLeaf g).leaves (front ++ [changed]) := by
  obtain ⟨before, same⟩ := Node.leaves_of_lastLeaf found
  rw [same] at h
  obtain ⟨hfront, hnow⟩ := shows_concat.mp h
  refine ⟨hnow, fun g hg changed shown => ?_⟩
  obtain ⟨before', same', mapped, -⟩ := Node.lastLeaf_change hg left found
  obtain ⟨rfl, -⟩ := List.append_inj' (same.symm.trans same') rfl
  rw [mapped]
  exact shows_concat.mpr ⟨hfront, shown⟩

/-- What starts a row of leaves on the right of a boundary is the leaf that a descent finds. -/
theorem shows_firstLeaf {l : Node} (h : Shows right.leaves (r :: rest))
    (found : right.firstLeaf = .ok l)
    : face? l = some r
      ∧ ∀ g, Node.LeafMap g → ∀ changed, face? (g l) = some changed →
          Shows (right.mapFirstLeaf g).leaves (changed :: rest)
          ∧ ∃ l', (right.mapFirstLeaf g).firstLeaf = .ok l' := by
  obtain ⟨after, same⟩ := Node.leaves_of_firstLeaf found
  rw [same] at h
  obtain ⟨hr, hrest⟩ := shows_cons.mp h
  refine ⟨hr, fun g hg changed shown => ?_⟩
  obtain ⟨after', same', mapped, found'⟩ := Node.firstLeaf_change hg right found
  obtain ⟨-, rfl⟩ := List.cons.inj (same.symm.trans same')
  rw [mapped]
  exact ⟨shows_cons.mpr ⟨shown, hrest⟩, _, found'⟩

theorem face?_text {n : Node} {s : Chars} (h : face? n = some (.text s))
    : ∃ m, n = .text s m := by
  cases n <;> simp_all [face?]

theorem isToken_of_face? {n : Node} (h : face? n = some .token)
    : isToken n = true := by
  cases n <;> simp_all [face?, isToken]

theorem face?_repayLeaf {n : Node} (h : face? n = some f)
    : face? (repayLeaf n) = some (repaid true f) := by
  cases n with
  | text s m =>
      obtain rfl := Option.some.inj h
      cases s <;> rfl
  | math | code =>
      obtain rfl := Option.some.inj h
      rfl
  | group | flow | note | inert => simp [face?] at h

-----------------------------------------------------------------------------------------
-- Boundaries
-----------------------------------------------------------------------------------------

theorem joinProse_right (l r : Chars) (owed : Bool)
    : (joinProse l r owed).right = trimLeft r := by
  simp only [joinProse, joinRuns]
  cases (trimRight l).isEmpty <;> cases hr : (trimLeft r).isEmpty <;> simp_all

/-- The run that is handed on from a boundary as seen ends in prose. -/
theorem endsProse_seen {l r : Chars} {owed : Bool} (prose : isProseRun l = true)
    (seen : EndsProse carry.seen)
    : EndsProse (joinedTexts carry left right (joinProse l r owed) true).carry.seen := by
  simp only [joinedTexts]
  split
  · next visible =>
      cases blank : isBlankRun l with
      | false =>
          cases hr : isBlankRun r with
          | false =>
              simp only [joinProse_visible blank hr, if_true]
              exact endsProse_trimRight prose
          | true =>
              simp only [joinProse_before_blank blank hr, if_true]
              exact endsProse_trimRight prose
      | true =>
          refine absurd visible ?_
          cases hr : isBlankRun r with
          | false =>
              simp only [joinProse_after_blank blank hr]
              cases (endsBlank l || startsBlank r || owed) <;> decide
          | true =>
              simp only [joinProse_blank blank hr]
              decide
  · split
    · exact seen
    · exact fun c mem => absurd mem (by simp)

/-- A boundary in prose changes the two leaves that touch it as they meet there, and nothing
else. -/
theorem resolve_shows (hl : Shows left.leaves (front ++ [now]))
    (hr : Shows right.leaves (r :: rest))
    (proseLeft : now.isProse = true) (proseRight : r.isProse = true) (seen : EndsProse carry.seen)
    (h : resolve .standard carry left right = .ok b)
    : let m := meet carry.owed now r
      Shows b.left.leaves (front ++ [m.left])
      ∧ Shows b.right.leaves (m.right :: rest)
      ∧ b.space = m.space
      ∧ b.carry.owed = m.owed
      ∧ EndsProse b.carry.seen
      ∧ ∃ l, b.right.firstLeaf = .ok l := by
  have nothingSeen : EndsProse Carry.empty.seen := fun c mem => absurd mem (by simp [Carry.empty])
  obtain ⟨⟨l, foundLeft⟩, l', foundRight⟩ := leaves_of_resolve_ok h
  obtain ⟨faceLeft, changeLeft⟩ := shows_lastLeaf hl foundLeft
  obtain ⟨faceRight, changeRight⟩ := shows_firstLeaf hr foundRight
  cases now with
  | text s =>
      obtain ⟨m, rfl⟩ := face?_text faceLeft
      have textLeft := fun t => changeLeft _ (Node.textChange_withText t).leafMap (.text t) rfl
      cases r with
      | text t =>
          obtain ⟨m', rfl⟩ := face?_text faceRight
          have kept : keepsLeft .standard carry left (joinProse s t carry.owed) = .ok true :=
            keepsLeft_prose seen (by rw [joinProse_right]; exact startsProse_trimLeft proseRight)
          have same : resolve .standard carry left right
              = .ok (joinedTexts carry left right (joinProse s t carry.owed) true) := by
            rw [resolve_texts foundLeft foundRight, resolveTexts, join_prose proseLeft proseRight]
            exact bind_eq_ok.mpr ⟨_, rfl, bind_eq_ok.mpr ⟨_, kept, rfl⟩⟩
          obtain rfl := Except.ok.inj (same.symm.trans h)
          obtain ⟨shown, found⟩ := changeRight _ (Node.textChange_withText _).leafMap (.text _) rfl
          exact ⟨textLeft _, shown, rfl, rfl, endsProse_seen proseLeft seen, found⟩
      | token =>
          rw [resolve_before_token foundLeft foundRight (isToken_of_face? faceRight),
            spaceBeforeToken_prose proseLeft] at h
          obtain rfl := Except.ok.inj h
          exact ⟨textLeft _, hr, rfl, rfl, nothingSeen, _, foundRight⟩
  | token =>
      have token := isToken_of_face? faceLeft
      cases r with
      | text t =>
          obtain ⟨m', rfl⟩ := face?_text faceRight
          rw [resolve_after_token foundLeft foundRight token, spaceAfterToken_prose proseRight] at h
          obtain rfl := Except.ok.inj h
          obtain ⟨shown, found⟩ := changeRight _ (Node.textChange_withText _).leafMap (.text _) rfl
          exact ⟨hl, shown, rfl, rfl, nothingSeen, found⟩
      | token =>
          have noText : ∀ n : Node, isToken n = true → isTextRun n = false := by
            intro n hn
            cases n <;> simp_all [isToken, isTextRun]
          have apart : Apart l l' := by
            simp [Apart, noText l token, noText l' (isToken_of_face? faceRight)]
          rw [resolve_apart foundLeft foundRight apart] at h
          obtain rfl := Except.ok.inj h
          exact ⟨hl, hr, rfl, rfl, nothingSeen, _, foundRight⟩

-----------------------------------------------------------------------------------------
-- Trees
-----------------------------------------------------------------------------------------

/-- A tree of flows over texts of prose, math and code. -/
inductive Prose : Node → Prop
  | flow {form cs m} (children : ∀ c ∈ cs, Prose c) : Prose (.flow form cs m)
  | text {s m} (filled : s ≠ []) (prose : isProseRun s = true) : Prose (.text s m)
  | math {form s m} : Prose (.math form s m)
  | code {s m} : Prose (.code s m)

mutual

/-- The leaves below a child of a flow with the boundaries before them; `alone` and `final` tell of
the boundary before the child. -/
def seats (alone final : Bool) : Node → List Seat
  | .group _ cs _ | .flow _ cs _ => seatsOf alone final cs
  | .text s _ => [⟨.text s, alone, final⟩]
  | .math .. | .code .. | .note .. | .inert .. => [⟨.token, alone, final⟩]

/-- The leaves below the children of a flow, of which the first shares the boundary before the
flow. -/
def seatsOf (alone final : Bool) : List Node → List Seat
  | [] => []
  | c :: cs => seats alone final c ++ seatsAfter cs

/-- The leaves below the children that follow another one. -/
def seatsAfter : List Node → List Seat
  | [] => []
  | c :: cs => seats (c.countLeaves == 1) cs.isEmpty c ++ seatsAfter cs

end

mutual

/-- Every leaf has its seat. -/
theorem seats_length (alone final : Bool) (n : Node)
    : (seats alone final n).length = n.countLeaves := by
  cases n with
  | group form cs m | flow form cs m => exact seatsOf_length alone final cs
  | text | math | code | note | inert => rfl
termination_by sizeOf n

theorem seatsOf_length (alone final : Bool) (cs : List Node)
    : (seatsOf alone final cs).length = (Node.leavesOf cs).length := by
  cases cs with
  | nil => rfl
  | cons c cs =>
      rw [seatsOf, Node.leavesOf, List.length_append, List.length_append,
        seats_length alone final c, seatsAfter_length cs]
      rfl
termination_by sizeOf cs

theorem seatsAfter_length (cs : List Node)
    : (seatsAfter cs).length = (Node.leavesOf cs).length := by
  cases cs with
  | nil => rfl
  | cons c cs =>
      rw [seatsAfter, Node.leavesOf, List.length_append, List.length_append, seats_length _ _ c,
        seatsAfter_length cs]
      rfl
termination_by sizeOf cs

end

mutual

/-- A tree of prose has prose in all of its seats, and no text that is empty. -/
theorem seats_prose (alone final : Bool) {n : Node} (prose : Prose n)
    : ∀ x ∈ seats alone final n, x.face.isProse = true ∧ x.face ≠ .text [] := by
  cases prose with
  | @flow form cs m children => exact seatsOf_prose alone final cs children
  | @text s m filled prose =>
      intro x mem
      obtain rfl := List.mem_singleton.mp mem
      exact ⟨prose, fun h => filled (Face.text.inj h)⟩
  | math | code =>
      intro x mem
      obtain rfl := List.mem_singleton.mp mem
      exact ⟨rfl, by simp⟩
termination_by sizeOf n

theorem seatsOf_prose (alone final : Bool) (cs : List Node) (prose : ∀ c ∈ cs, Prose c)
    : ∀ x ∈ seatsOf alone final cs, x.face.isProse = true ∧ x.face ≠ .text [] := by
  cases cs with
  | nil => simp [seatsOf]
  | cons c cs =>
      intro x mem
      rcases List.mem_append.mp mem with mem | mem
      · exact seats_prose alone final (prose c (by simp)) x mem
      · exact seatsAfter_prose cs (fun d hd => prose d (List.mem_cons_of_mem _ hd)) x mem
termination_by sizeOf cs

theorem seatsAfter_prose (cs : List Node) (prose : ∀ c ∈ cs, Prose c)
    : ∀ x ∈ seatsAfter cs, x.face.isProse = true ∧ x.face ≠ .text [] := by
  cases cs with
  | nil => simp [seatsAfter]
  | cons c cs =>
      intro x mem
      rcases List.mem_append.mp mem with mem | mem
      · exact seats_prose _ _ (prose c (by simp)) x mem
      · exact seatsAfter_prose cs (fun d hd => prose d (List.mem_cons_of_mem _ hd)) x mem
termination_by sizeOf cs

end

mutual

/-- The seats of a tree of prose hold its leaves. -/
theorem seats_shows (alone final : Bool) {n : Node} (prose : Prose n)
    : Shows n.leaves ((seats alone final n).map Seat.face) := by
  cases prose with
  | @flow form cs m children => exact seatsOf_shows alone final cs children
  | text | math | code => rfl
termination_by sizeOf n

theorem seatsOf_shows (alone final : Bool) (cs : List Node) (prose : ∀ c ∈ cs, Prose c)
    : Shows (Node.leavesOf cs) ((seatsOf alone final cs).map Seat.face) := by
  cases cs with
  | nil => rfl
  | cons c cs =>
      rw [seatsOf, List.map_append]
      exact (seats_shows alone final (prose c (by simp))).append
        (seatsAfter_shows cs (fun d hd => prose d (List.mem_cons_of_mem _ hd)))
termination_by sizeOf cs

theorem seatsAfter_shows (cs : List Node) (prose : ∀ c ∈ cs, Prose c)
    : Shows (Node.leavesOf cs) ((seatsAfter cs).map Seat.face) := by
  cases cs with
  | nil => rfl
  | cons c cs =>
      rw [seatsAfter, List.map_append]
      exact (seats_shows _ _ (prose c (by simp))).append
        (seatsAfter_shows cs (fun d hd => prose d (List.mem_cons_of_mem _ hd)))
termination_by sizeOf cs

end

-----------------------------------------------------------------------------------------
-- Spacing
-----------------------------------------------------------------------------------------

/-- A child of a flow that has been spaced by itself and has met the boundary before it. -/
structure Approached (before : Option Face) (carry : Carry) (child : Node)
    (row : List Seat) : Prop where
  /-- The boundary has changed its first leaf. -/
  leaves : Shows child.leaves ((settled none row none).modifyHead (arrive before))
  /-- The boundary has handed on what its leaves owe. -/
  owed : carry.owed = owesBefore before (settled none row none)
  seen : EndsProse carry.seen
  /-- The first leaf has been found there. -/
  found : before ≠ none → ∃ l, child.firstLeaf = .ok l

variable {before : Option Face} {child : Node} {row : List Seat}

/-- At the end of a flow, the last child settles with what is owed written back. -/
theorem Approached.finish (entered : Approached before carry child row)
    (placed : Placed before row true)
    : Shows (repay carry.owed child).leaves (settled before row none) := by
  have finished := Spacing.finish placed
  rw [← entered.owed] at finished
  cases owed : carry.owed with
  | false =>
      rw [owed, show repaid false = id from funext (fun _ => repaid_false),
        List.modifyHead_id] at finished
      rw [← finished]
      exact entered.leaves
  | true =>
      have owing := entered.owed.symm.trans owed
      have inside : before ≠ none := by
        rintro rfl
        cases hf : (settled none row none).head? <;> simp [owesBefore, hf, owes] at owing
      obtain ⟨l, found⟩ := entered.found inside
      obtain ⟨first, rest, shape⟩ : ∃ first rest, settled none row none = first :: rest := by
        refine List.exists_cons_of_ne_nil ?_
        intro empty
        simp [empty, owesBefore] at owing
      have shown := entered.leaves
      rw [owed, shape, List.modifyHead_cons, List.modifyHead_cons] at finished
      rw [shape, List.modifyHead_cons] at shown
      obtain ⟨hface, change⟩ := shows_firstLeaf shown found
      rw [← finished]
      exact (change repayLeaf textChange_repayLeaf.leafMap _ (face?_repayLeaf hface)).1

theorem modifyHead_arrive_none (faces : List Face)
    : faces.modifyHead (arrive none) = faces := by
  cases faces <;> rfl

/-- The first child of a flow has no boundary before it. -/
theorem Approached.start (shown : Shows child.leaves (settled none row none))
    : Approached none .empty child row where
  leaves := by rwa [modifyHead_arrive_none]
  owed := by
    cases settled none row none <;> rfl
  seen := fun c mem => absurd mem (by simp [Carry.empty])
  found := fun inside => absurd rfl inside

/-- The last child of a flow ends it. -/
theorem Placed.closed (placed : Placed before row true)
    : Closed before row := by
  intro x mem inside
  match row with
  | [] => simp at mem
  | [w] =>
      obtain rfl : w = x := by simpa using mem
      rcases placed.first w rfl with outside | ends
      · simp [outside] at inside
      · exact ends
  | w :: v :: rest => exact placed.last x mem (.inr (List.cons_ne_nil _ _))

theorem shows_spaceLeaf (wide : Bool)
    : Shows (if wide then [Node.space] else []) (spaceLeaf wide) := by
  cases wide <;> rfl

theorem shows_nil (h : Shows leaves [])
    : leaves = [] :=
  List.map_eq_nil_iff.mp h

/-- Changed by the boundary before it, a child still holds prose. -/
theorem Placed.isProse_arrive {final : Bool} (placed : Placed before row final)
    : ∀ f ∈ (settled none row none).modifyHead (arrive before), f.isProse = true := by
  have prose := @isProse_settled none none row placed.prose
  intro f mem
  cases shape : settled none row none with
  | nil => simp [shape] at mem
  | cons first rest =>
      rw [shape] at prose mem
      rcases List.mem_cons.mp mem with rfl | mem
      · exact Spacing.isProse_arrive (prose first (by simp))
      · exact prose f (List.mem_cons_of_mem _ mem)

/-- At the boundary of two neighbours in a flow the first settles, and the second has then been
approached. -/
theorem Approached.resolve {c : Node} {next : List Seat}
    (entered : Approached before carry child row)
    (placed : Placed before row false) (shown : Shows c.leaves (settled none next none))
    (prose : ∀ y ∈ next, y.face.isProse = true)
    (h : Spacing.resolve .standard carry child c = .ok b)
    : ∃ z y rest,
        row.getLast? = some z
        ∧ next = y :: rest
        ∧ Shows b.left.leaves (settled before row (some y.face))
        ∧ b.space = seam z.face y.face
        ∧ Approached (some z.face) b.carry b.right next := by
  obtain ⟨⟨l, foundLeft⟩, l', foundRight⟩ := leaves_of_resolve_ok h
  obtain ⟨before', ends⟩ := Node.leaves_of_lastLeaf foundLeft
  obtain ⟨after', starts⟩ := Node.leaves_of_firstLeaf foundRight
  have rowFilled : row ≠ [] := by
    rintro rfl
    simp [shows_nil entered.leaves] at ends
  have nextFilled : next ≠ [] := by
    rintro rfl
    simp [shows_nil shown] at starts
  obtain ⟨y, rest, rfl⟩ := List.exists_cons_of_ne_nil nextFilled
  have last := List.getLast?_eq_some_getLast rowFilled
  obtain ⟨front, now, shape, stands, meets⟩ := leave placed last
  obtain ⟨beyond, others, start⟩ := @settled_head none none (y :: rest) y rfl
  obtain ⟨left, space⟩ := meets _ _ (@opens_settle y beyond)
  have proseLeft : now.isProse = true := placed.isProse_arrive now (by simp [shape])
  have proseRight : (y.settle none beyond).isProse = true := isProse_settle (prose y (by simp))
  have leavesLeft := entered.leaves
  rw [shape] at leavesLeft
  rw [start] at shown
  obtain ⟨hleft, hright, hspace, howed, seen, found⟩ :=
    resolve_shows leavesLeft shown proseLeft proseRight entered.seen h
  rw [entered.owed] at hleft hright hspace howed
  obtain ⟨arrives, owing⟩ := @meet_right (y.settle none beyond) _ _ _ stands
  refine ⟨_, y, rest, last, rfl, ?_, hspace.trans space, ?_, ?_, seen, fun _ => found⟩
  · rw [left]
    exact hleft
  · rw [start, List.modifyHead_cons, ← arrives]
    exact hright
  · rw [howed, owing, start]
    rfl

mutual

/-- Spacing that nothing stops brings the leaves of a tree of prose to where their seats settle. By
induction on the tree; the row of a flow carries along that the child before has been approached. -/
theorem formatNode_settled {n : Node} (prose : Prose n)
    (h : (formatNode .standard options n).fault = none) (alone final : Bool)
    : Shows (formatNode .standard options n).result.leaves (settled none (seats alone final n) none)
      ∧ Closed none (seats alone final n)
      ∧ ∀ x ∈ (seats alone final n).head?, x.alone = alone ∧ x.final = final := by
  cases prose with
  | @flow form cs m children =>
      simp only [formatNode, Run.map] at h ⊢
      exact formatFlow_settled form.kind cs children h alone final
  | @text s m filled prose =>
      have same : formatNode .standard options (.text s m) = ⟨.text s m, [], none⟩ := by
        simp only [formatNode]
        split
        · simp only [Rules.standard, Rules.ofClasses, Rules.ofDecision, tidyLeaf, expectText,
            tidyText_prose prose]
        · rfl
      have settles : settled none (seats alone final (.text s m)) none = [.text s] :=
        congrArg (fun f => [f]) settle_single
      rw [same, settles]
      exact ⟨rfl, by simp [Closed, seats], by simp [seats]⟩
  | @math form s m =>
      refine ⟨?_, by simp [Closed, seats], by simp [seats]⟩
      simp only [formatNode]
      split
      · simp only [Rules.standard, Rules.ofClasses, Rules.ofDecision, tidyLeaf, expectText]
        rfl
      · rfl
  | @code s m => exact ⟨rfl, by simp [Closed, seats], by simp [seats]⟩
termination_by sizeOf n

theorem formatFlow_settled (kind : Kind) (cs : List Node) (prose : ∀ c ∈ cs, Prose c)
    (h : (formatFlow .standard options kind cs).fault = none) (alone final : Bool)
    : Shows (Node.leavesOf (formatFlow .standard options kind cs).result)
        (settled none (seatsOf alone final cs) none)
      ∧ Closed none (seatsOf alone final cs)
      ∧ ∀ x ∈ (seatsOf alone final cs).head?, x.alone = alone ∧ x.final = final := by
  cases cs with
  | nil => exact ⟨rfl, by simp [Closed, seatsOf], by simp [seatsOf]⟩
  | cons c cs =>
      obtain ⟨hc, hrow, same⟩ := formatFlow_cons h
      obtain ⟨shown, closed, first⟩ := formatNode_settled (prose c (by simp)) hc alone final
      have seated := seats_prose alone final (prose c (by simp))
      have placed : Placed none (seats alone final c) cs.isEmpty :=
        ⟨fun x mem => (seated x mem).1, fun x mem => (seated x mem).2, fun _ _ => .inl rfl, closed⟩
      obtain ⟨shownRow, closedRow, head⟩ :=
        formatRest_settled kind .empty (Approached.start shown) cs placed
          (fun d mem => prose d (List.mem_cons_of_mem _ mem)) hrow
      rw [same, seatsOf, head]
      exact ⟨shownRow, closedRow, first⟩
termination_by sizeOf cs

theorem formatRest_settled (kind : Kind) (carry : Carry) {before : Option Face} {child : Node}
    {row : List Seat}
    (entered : Approached before carry child row) (cs : List Node)
    (placed : Placed before row cs.isEmpty)
    (prose : ∀ c ∈ cs, Prose c)
    (h : (formatRest .standard options kind carry child cs).fault = none)
    : Shows (Node.leavesOf (weave (formatRest .standard options kind carry child cs).result))
        (settled before (row ++ seatsAfter cs) none)
      ∧ Closed before (row ++ seatsAfter cs)
      ∧ (row ++ seatsAfter cs).head? = row.head? := by
  cases cs with
  | nil =>
      simp only [formatRest, weave, Node.leavesOf, seatsAfter, List.append_nil]
      exact ⟨entered.finish placed, placed.closed, trivial⟩
  | cons c cs =>
      obtain ⟨b, hc, resolved, hrow, same⟩ := formatRest_cons h
      obtain ⟨shown, closed, first⟩ :=
        formatNode_settled (prose c (by simp)) hc (c.countLeaves == 1) cs.isEmpty
      have seated := seats_prose (c.countLeaves == 1) cs.isEmpty (prose c (by simp))
      obtain ⟨z, y, rest, last, shape, shownLeft, space, approached⟩ :=
        entered.resolve placed shown (fun x mem => (seated x mem).1) resolved
      have alone : (c.countLeaves == 1) = rest.isEmpty := by
        rw [← seats_length (c.countLeaves == 1) cs.isEmpty c, shape]
        cases rest <;> rfl
      have placed' : Placed (some z.face) (seats (c.countLeaves == 1) cs.isEmpty c) cs.isEmpty := by
        refine ⟨fun x mem => (seated x mem).1, fun x mem => (seated x mem).2,
          fun x mem => .inr ?_, closed⟩
        rw [shape, List.tail_cons, ← alone]
        exact first x mem
      obtain ⟨shownRest, closedRest, -⟩ :=
        formatRest_settled kind b.carry approached cs placed'
          (fun d mem => prose d (List.mem_cons_of_mem _ mem)) hrow
      have shownSpace := shows_spaceLeaf b.space
      rw [space] at shownSpace
      rw [same, leavesOf_weave_cons, space, seatsAfter]
      rw [shape, List.cons_append] at shownRest closedRest ⊢
      refine ⟨?_, ?_, ?_⟩
      · rw [settled_append before last]
        exact shownLeft.append (shownSpace.append shownRest)
      · intro x mem _
        rw [List.getLast?_append_of_ne_nil _ (List.cons_ne_nil _ _)] at mem
        exact closedRest x mem (.inl (Option.some_ne_none _))
      · exact List.head?_append_of_ne_nil _ (by rintro rfl; simp at last)
termination_by sizeOf cs

end

end MixedScript.Spacing
