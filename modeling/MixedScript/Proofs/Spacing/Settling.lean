import MixedScript.Proofs.Spacing.Seat

/-! A row of seats at the boundaries of its child. A child is first spaced by itself and then meets
the children beside it: the boundary before it changes its first leaf, and either the boundary after
it or the end of the flow brings all of its leaves to where they settle. -/

namespace MixedScript.Spacing

/-- Whether a leaf holds nothing but prose. -/
def Face.isProse : Face → Bool
  | text s => isProseRun s
  | token => true

/-- Unless it is the only one, the last leaf of a row is alone in a child that ends its flow. -/
def Closed (before : Option Face) (seats : List Seat) : Prop :=
  ∀ x ∈ seats.getLast?, before ≠ none ∨ seats.tail ≠ [] → x.alone = true ∧ x.final = true

/-- The seats below a child of a flow, given the leaf before them. -/
structure Placed (before : Option Face) (seats : List Seat) (final : Bool) : Prop where
  /-- They hold prose. -/
  prose : ∀ x ∈ seats, x.face.isProse = true
  /-- No text is empty. -/
  filled : ∀ x ∈ seats, x.face ≠ .text []
  /-- The boundary before them is the one before the child. -/
  first : ∀ x ∈ seats.head?, before = none ∨ x.alone = seats.tail.isEmpty ∧ x.final = final
  /-- Several of them end as a flow does. -/
  last : Closed none seats

variable {before after : Option Face} {seats : List Seat} {x y z : Seat} {f q r : Face}
    {owed final : Bool}

-----------------------------------------------------------------------------------------
-- Ends of a row
-----------------------------------------------------------------------------------------

/-- Where one row follows another, each settles with the end of the other beyond its own. -/
theorem settled_append (before : Option Face) (last : seats.getLast? = some z) (y : Seat)
    (rest : List Seat)
    (after : Option Face)
    : settled before (seats ++ y :: rest) after
      = settled before seats (some y.face)
        ++ (spaceLeaf (seam z.face y.face) ++ settled (some z.face) (y :: rest) after) := by
  induction seats generalizing before with
  | nil => simp at last
  | cons w seats ih =>
      cases seats with
      | nil =>
          obtain rfl : w = z := by simpa using last
          rfl
      | cons v seats =>
          have later := ih (some w.face) (by simpa using last)
          simp only [List.cons_append, settled, List.append_assoc] at later ⊢
          rw [later]

/-- What stands beyond the end of a row bears on its last leaf alone. -/
theorem settled_last (q : Face) (last : seats.getLast? = some z)
    : ∃ front p, ∀ after, settled (some q) seats after = front ++ [z.settle (some p) after] := by
  induction seats generalizing q with
  | nil => simp at last
  | cons w seats ih =>
      cases seats with
      | nil =>
          obtain rfl : w = z := by simpa using last
          exact ⟨[], q, fun _ => rfl⟩
      | cons v seats =>
          obtain ⟨front, p, shape⟩ := ih w.face (by simpa using last)
          refine
            ⟨w.settle (some q) (some v.face) :: (spaceLeaf (seam w.face v.face) ++ front), p, ?_⟩
          intro after
          simp only [settled, shape, List.cons_append, List.append_assoc]

theorem settled_head (starts : seats.head? = some y)
    : ∃ next rest, settled before seats after = y.settle before next :: rest := by
  match seats, starts with
  | [_], rfl => exact ⟨_, _, rfl⟩
  | _ :: _ :: _, rfl => exact ⟨_, _, rfl⟩

-----------------------------------------------------------------------------------------
-- A child between its boundaries
-----------------------------------------------------------------------------------------

/-- Whether the boundary before a row of leaves leaves whitespace owed. -/
def owesBefore (before : Option Face) (faces : List Face) : Bool :=
  faces.head?.any (owes before)

/-- The leaves of a child that is not the last of its flow, spaced by itself and changed by the
boundary before it, settle at the boundary after it. -/
theorem leave (placed : Placed before seats false) (last : seats.getLast? = some z)
    : ∃ front now,
        (settled none seats none).modifyHead (arrive before) = front ++ [now]
        ∧ Stands z.face now (owesBefore before (settled none seats none))
        ∧ ∀ f r, Opens f r →
            let m := meet (owesBefore before (settled none seats none)) now r
            settled before seats (some f) = front ++ [m.left] ∧ m.space = seam z.face f := by
  match seats with
  | [] => simp at last
  | [x] =>
      obtain rfl : x = z := by simpa using last
      have filled := placed.filled x (by simp)
      have place : before = none ∨ x.alone = true ∧ x.final = false := placed.first x rfl
      refine ⟨[], arrive before x.face, ?_, ?_, ?_⟩
      · simp [settled, settle_single]
      · simpa [owesBefore, settled, settle_single] using stands_arrive filled
      · intro f r opens
        obtain ⟨left, space⟩ := leave_alone filled place opens
        simp only [owesBefore, settled, settle_single, List.head?_cons, Option.any_some,
          List.nil_append]
        exact ⟨by rw [left], space⟩
  | x :: y :: rest =>
      have last : (y :: rest).getLast? = some z := by simpa using last
      have place : before = none ∨ x.alone = false ∧ x.final = false := placed.first x rfl
      have ended := placed.last z (by simpa using last) (.inr (List.cons_ne_nil _ _))
      have filled := placed.filled z (List.mem_cons_of_mem _ (List.mem_of_getLast? last))
      obtain ⟨front, p, shape⟩ := settled_last x.face last
      refine ⟨x.settle before (some y.face) :: (spaceLeaf (seam x.face y.face) ++ front),
        z.settle (some p) none, ?_, stands_settle filled, ?_⟩
      · simp only [settled, shape, List.modifyHead_cons, arrive_first place, List.cons_append,
          List.append_assoc]
      · intro f r opens
        obtain ⟨left, space⟩ := @leave_settled z f p r
          (owesBefore before (settled none (x :: y :: rest) none)) ended opens
        refine ⟨?_, space⟩
        rw [left]
        simp only [settled, shape, List.cons_append, List.append_assoc]

/-- The leaves of the last child of a flow settle when what is owed has been repaid. -/
theorem finish (placed : Placed before seats true)
    : ((settled none seats none).modifyHead (arrive before)).modifyHead
          (repaid (owesBefore before (settled none seats none)))
      = settled before seats none := by
  match seats with
  | [] => rfl
  | [x] =>
      have filled := placed.filled x (by simp)
      simp only [settled, settle_single, List.modifyHead_cons, owesBefore, List.head?_cons,
        Option.any_some, repaid_alone filled]
  | x :: y :: rest =>
      have place : before = none ∨ x.alone = false ∧ x.final = true := placed.first x rfl
      simp only [settled, List.modifyHead_cons, owesBefore, List.head?_cons, Option.any_some,
        repaid_first place]

-----------------------------------------------------------------------------------------
-- Prose after spacing
-----------------------------------------------------------------------------------------

theorem isProseRun_of_blank {s : Chars} (blank : isBlankRun s = true)
    : isProseRun s = true := by
  simp only [isProseRun, List.all_eq_true, Bool.or_eq_true]
  exact fun c mem => .inl (isBlankRun_iff.mp blank c mem)

theorem isProseRun_append {s t : Chars}
    : isProseRun (s ++ t) = (isProseRun s && isProseRun t) :=
  List.all_append

theorem isProse_settle (prose : x.face.isProse = true)
    : (x.settle before after).isProse = true := by
  obtain ⟨face, alone, final⟩ := x
  cases face.form with
  | token => rfl
  | blank blank =>
      simp only [Seat.settle, settleText, blank, if_true]
      split
      · exact prose
      · exact isProseRun_of_blank (isBlankRun_gap _)
  | @parts a c z ha hc hz =>
      simp only [Face.isProse, isProseRun_append, Bool.and_eq_true] at prose
      simp only [Seat.settle, settleText_parts ha hc hz, Face.isProse, isProseRun_append,
        Bool.and_eq_true]
      exact ⟨isProseRun_of_blank (isBlankRun_edge _ ha), prose.2.1,
        isProseRun_of_blank (isBlankRun_edge _ hz)⟩

theorem isProse_arrive (prose : f.isProse = true)
    : (arrive before f).isProse = true := by
  cases f.form with
  | token => rcases before with _ | ⟨_ | _⟩ <;> rfl
  | blank blank =>
      rw [arrive_blank blank]
      exact isProseRun_of_blank (isBlankRun_edge _ blank)
  | @parts a c z ha hc hz =>
      simp only [Face.isProse, isProseRun_append, Bool.and_eq_true] at prose
      simp only [arrive_parts ha hc z, Face.isProse, isProseRun_append, Bool.and_eq_true]
      exact ⟨isProseRun_of_blank (isBlankRun_edge _ ha), prose.2⟩

/-- A row of prose has prose in all of its leaves after spacing. -/
theorem isProse_settled (prose : ∀ x ∈ seats, x.face.isProse = true)
    : ∀ f ∈ settled before seats after, f.isProse = true := by
  induction seats generalizing before with
  | nil => simp [settled]
  | cons x seats ih =>
      have settles : ∀ next, (x.settle before next).isProse = true :=
        fun next => isProse_settle (prose x (by simp))
      cases seats with
      | nil => simpa [settled] using settles after
      | cons y rest =>
          have later := @ih (some x.face) (fun w mem => prose w (List.mem_cons_of_mem _ mem))
          intro f mem
          simp only [settled, List.mem_cons, List.mem_append] at mem
          rcases mem with rfl | mem | mem
          · exact settles _
          · cases wide : seam x.face y.face with
            | false => simp [spaceLeaf, wide] at mem
            | true =>
                obtain rfl : f = .text [' '] := by simpa [spaceLeaf, wide] using mem
                rfl
          · exact later f mem

end MixedScript.Spacing
