import MixedScript.Proofs.Spacing.Course
import MixedScript.Proofs.Spacing.Exact

/-! What stops the usual rules: a boundary in a flow with a container without children in place of a
leaf on one of its sides, and nothing else. The work changes leaves and puts spaces between children
before it comes to a boundary, but none of this changes where a descent ends. So the fault can be
read off the source: it is the first dead end at a boundary, in the order in which boundaries are
resolved. -/

namespace MixedScript.Spacing

variable {options : SpacingOptions} {left right : Node}

-----------------------------------------------------------------------------------------
-- Dead ends of a tree
-----------------------------------------------------------------------------------------

/-- The dead ends at a boundary: on the way to the last leaf of the child on the left, and on the
way to the first leaf of the child on the right. -/
def boundaryDeadEnds (left right : Node) : List DeadEnd :=
  (failure? left.lastLeaf).toList ++ (failure? right.firstLeaf).toList

mutual

/-- The dead ends at the boundaries below a node. Children come from left to right, each before its
boundary with the child on its left. -/
def deadEnds : Node → List DeadEnd
  | .group _ cs _ => deadEndsEach cs
  | .flow _ cs _ => deadEndsFlow cs
  | _ => []

def deadEndsEach : List Node → List DeadEnd
  | [] => []
  | c :: cs => deadEnds c ++ deadEndsEach cs

def deadEndsFlow : List Node → List DeadEnd
  | [] => []
  | c :: cs => deadEnds c ++ deadEndsRest c cs

/-- The dead ends along the children of a flow, from the boundary with the child before on. -/
def deadEndsRest (before : Node) : List Node → List DeadEnd
  | [] => []
  | c :: cs => deadEnds c ++ (boundaryDeadEnds before c ++ deadEndsRest c cs)

end

/-- A dead end at a boundary of a flow that is reached through containers. -/
inductive DeadEndIn (tree : Node) : DeadEnd → Prop
  | onLeft {form cs m left right e} (reached : tree.Below (.flow form cs m))
      (meet : [left, right] <:+: cs) (way : Node.Descends .last left e) (barren : e.Barren)
      : DeadEndIn tree ⟨e.kind, .last⟩
  | onRight {form cs m left right e} (reached : tree.Below (.flow form cs m))
      (meet : [left, right] <:+: cs) (way : Node.Descends .first right e) (barren : e.Barren)
      : DeadEndIn tree ⟨e.kind, .first⟩

theorem mem_failure? {ε α : Type} {x : Except ε α} {e : ε}
    : e ∈ (failure? x).toList ↔ x = .error e := by
  cases x <;> simp [failure?, eq_comm]

theorem mem_boundaryDeadEnds {d : DeadEnd}
    : d ∈ boundaryDeadEnds left right ↔ left.lastLeaf = .error d ∨ right.firstLeaf = .error d := by
  rw [boundaryDeadEnds, List.mem_append, mem_failure?, mem_failure?]

/-- A dead end at a boundary is one of the tree. -/
theorem DeadEndIn.of_boundary {tree : Node} {form : Flow} {cs : List Node} {m : Mapping}
    {d : DeadEnd} (reached : tree.Below (.flow form cs m)) (meet : [left, right] <:+: cs)
    (mem : d ∈ boundaryDeadEnds left right)
    : DeadEndIn tree d := by
  rcases mem_boundaryDeadEnds.mp mem with missing | missing
  · obtain ⟨e, way, barren, rfl⟩ := (Node.edgeLeaf_eq_error .last).mp missing
    exact .onLeft reached meet way barren
  · obtain ⟨e, way, barren, rfl⟩ := (Node.edgeLeaf_eq_error .first).mp missing
    exact .onRight reached meet way barren

/-- A dead end of a tree stands at one of its boundaries. -/
theorem DeadEndIn.exists_boundary {tree : Node} {d : DeadEnd} (h : DeadEndIn tree d)
    : ∃ form cs m left right,
        tree.Below (.flow form cs m) ∧ [left, right] <:+: cs ∧ d ∈ boundaryDeadEnds left right := by
  cases h with
  | onLeft reached meet way barren =>
      refine ⟨_, _, _, _, _, reached, meet, ?_⟩
      exact mem_boundaryDeadEnds.mpr (.inl (way.edgeLeaf_error barren))
  | onRight reached meet way barren =>
      refine ⟨_, _, _, _, _, reached, meet, ?_⟩
      exact mem_boundaryDeadEnds.mpr (.inr (way.edgeLeaf_error barren))

theorem DeadEndIn.of_child {n c : Node} {d : DeadEnd} (held : c ∈ n.children) (h : DeadEndIn c d)
    : DeadEndIn n d := by
  cases h with
  | onLeft reached meet way barren => exact .onLeft (.child held reached) meet way barren
  | onRight reached meet way barren => exact .onRight (.child held reached) meet way barren

mutual

/-- A dead end that is listed stands at a boundary. -/
theorem deadEndIn_of_mem (n : Node) {d : DeadEnd} (mem : d ∈ deadEnds n)
    : DeadEndIn n d := by
  cases n with
  | group form cs m =>
      obtain ⟨c, held, below⟩ := exists_child_of_memEach cs mem
      exact below.of_child (n := .group form cs m) held
  | flow form cs m =>
      cases cs with
      | nil => cases mem
      | cons c cs =>
          rw [deadEnds, deadEndsFlow, List.mem_append] at mem
          rcases mem with first | later
          · exact (deadEndIn_of_mem c first).of_child (n := .flow form (c :: cs) m) (.head _)
          · rcases exists_child_of_memRest c cs later with ⟨c', held, below⟩ | ⟨_, _, meet, mem⟩
            · exact below.of_child (n := .flow form (c :: cs) m) (.tail _ held)
            · exact .of_boundary .here meet mem
  | text | math | code | note | inert => cases mem
termination_by sizeOf n

theorem exists_child_of_memEach (cs : List Node) {d : DeadEnd} (mem : d ∈ deadEndsEach cs)
    : ∃ c ∈ cs, DeadEndIn c d := by
  cases cs with
  | nil => cases mem
  | cons c cs =>
      rw [deadEndsEach, List.mem_append] at mem
      rcases mem with first | later
      · exact ⟨c, .head _, deadEndIn_of_mem c first⟩
      · obtain ⟨c', held, below⟩ := exists_child_of_memEach cs later
        exact ⟨c', .tail _ held, below⟩
termination_by sizeOf cs

theorem exists_child_of_memRest (before : Node) (cs : List Node) {d : DeadEnd}
    (mem : d ∈ deadEndsRest before cs)
    : (∃ c ∈ cs, DeadEndIn c d)
      ∨ ∃ left right, [left, right] <:+: before :: cs ∧ d ∈ boundaryDeadEnds left right := by
  cases cs with
  | nil => cases mem
  | cons c cs =>
      rw [deadEndsRest, List.mem_append, List.mem_append] at mem
      rcases mem with inside | here | later
      · exact .inl ⟨c, .head _, deadEndIn_of_mem c inside⟩
      · exact .inr ⟨before, c, (List.prefix_append [before, c] cs).isInfix, here⟩
      · rcases exists_child_of_memRest c cs later with ⟨c', held, below⟩ | ⟨left, right, meet, mem⟩
        · exact .inl ⟨c', .tail _ held, below⟩
        · exact .inr ⟨left, right, meet.trans (List.suffix_cons before _).isInfix, mem⟩
termination_by sizeOf cs

end

theorem mem_deadEndsEach {cs : List Node} {c : Node} {d : DeadEnd} (held : c ∈ cs)
    (mem : d ∈ deadEnds c)
    : d ∈ deadEndsEach cs := by
  induction cs with
  | nil => cases held
  | cons first cs ih =>
      rw [deadEndsEach, List.mem_append]
      rcases List.mem_cons.mp held with rfl | later
      · exact .inl mem
      · exact .inr (ih later)

theorem mem_deadEndsRest {before c : Node} {cs : List Node} {d : DeadEnd} (held : c ∈ cs)
    (mem : d ∈ deadEnds c)
    : d ∈ deadEndsRest before cs := by
  induction cs generalizing before with
  | nil => cases held
  | cons first cs ih =>
      rw [deadEndsRest, List.mem_append, List.mem_append]
      rcases List.mem_cons.mp held with rfl | later
      · exact .inl mem
      · exact .inr (.inr (ih later))

/-- What is listed for a child is listed for the container that holds it. -/
theorem mem_deadEnds_of_child {n c : Node} {d : DeadEnd} (held : c ∈ n.children)
    (mem : d ∈ deadEnds c)
    : d ∈ deadEnds n := by
  cases n with
  | group form cs m => exact mem_deadEndsEach held mem
  | flow form cs m =>
      cases cs with
      | nil => cases held
      | cons first cs =>
          rw [deadEnds, deadEndsFlow, List.mem_append]
          rcases List.mem_cons.mp held with rfl | later
          · exact .inl mem
          · exact .inr (mem_deadEndsRest later mem)
  | text | math | code | note | inert => cases held

/-- What stands at a boundary between two children of a row is listed. -/
theorem mem_deadEndsRest_of_meet {before : Node} {cs : List Node} {d : DeadEnd}
    (meet : [left, right] <:+: before :: cs) (mem : d ∈ boundaryDeadEnds left right)
    : d ∈ deadEndsRest before cs := by
  induction cs generalizing before with
  | nil =>
      have short := meet.length_le
      simp at short
  | cons c cs ih =>
      rw [deadEndsRest, List.mem_append, List.mem_append]
      rcases List.infix_cons_iff.mp meet with start | later
      · obtain ⟨rfl, next⟩ := List.cons_prefix_cons.mp start
        obtain ⟨rfl, -⟩ := List.cons_prefix_cons.mp next
        exact .inr (.inl mem)
      · exact .inr (.inr (ih later))

theorem mem_deadEnds_of_below {n e : Node} {d : DeadEnd} (below : n.Below e) (mem : d ∈ deadEnds e)
    : d ∈ deadEnds n := by
  induction below with
  | here => exact mem
  | child held _ ih => exact mem_deadEnds_of_child held (ih mem)

/-- The list holds the dead ends at the boundaries of a tree. -/
theorem mem_deadEnds {n : Node} {d : DeadEnd}
    : d ∈ deadEnds n ↔ DeadEndIn n d := by
  refine ⟨deadEndIn_of_mem n, fun h => ?_⟩
  obtain ⟨form, cs, m, left, right, reached, meet, mem⟩ := h.exists_boundary
  refine mem_deadEnds_of_below reached ?_
  cases cs with
  | nil =>
      have short := meet.length_le
      simp at short
  | cons c cs =>
      rw [deadEnds, deadEndsFlow, List.mem_append]
      exact .inr (mem_deadEndsRest_of_meet meet mem)

-----------------------------------------------------------------------------------------
-- The fault of a run
-----------------------------------------------------------------------------------------

/-- The fault at the first of several dead ends. -/
def firstFault (ds : List DeadEnd) : Option Fault :=
  ds.head?.map .deadEnd

theorem firstFault_append (ds ds' : List DeadEnd)
    : firstFault (ds ++ ds') = (firstFault ds).or (firstFault ds') := by
  cases ds <;> rfl

/-- A descent fails on what has become of a tree as it does on the source. -/
theorem Found.failure? {same : Node → Node → Prop} {x y : Except DeadEnd Node} (h : Found same x y)
    : failure? y = failure? x := by
  cases h <;> rfl

/-- A boundary is resolved unless there is no leaf on one of its sides. -/
theorem failure?_resolve (carry : Carry) (left right : Node)
    : failure? (resolve .standard carry left right) = firstFault (boundaryDeadEnds left right) := by
  cases hl : left.lastLeaf with
  | error d => simp only [resolve, boundaryDeadEnds, hl]; rfl
  | ok l =>
      cases hr : right.firstLeaf with
      | error d => simp only [resolve, boundaryDeadEnds, hl, hr]; rfl
      | ok r =>
          obtain ⟨b, resolved⟩ := resolve_succeeds carry hl hr
          simp only [boundaryDeadEnds, hl, hr, resolved]
          rfl

mutual

/-- The work on a node is stopped by the first dead end of the source. By induction on the tree;
along a row, what has become of the children at a boundary ends and starts where the source does. -/
theorem fault_formatNode (n : Node)
    : (formatNode .standard options n).fault = firstFault (deadEnds n) := by
  cases n with
  | group form cs m => exact fault_formatEach cs
  | flow form cs m => exact fault_formatFlow form.kind cs
  | text | math =>
      simp only [formatNode]
      split <;> rfl
  | code | note | inert => rfl
termination_by sizeOf n

theorem fault_formatEach (cs : List Node)
    : (formatEach .standard options cs).fault = firstFault (deadEndsEach cs) := by
  cases cs with
  | nil => rfl
  | cons c cs =>
      have head : (formatNode .standard options c).fault = _ := fault_formatNode c
      rw [deadEndsEach, firstFault_append, ← head, ← fault_formatEach cs, formatEach]
      cases (formatNode .standard options c).fault <;> rfl
termination_by sizeOf cs

theorem fault_formatFlow (kind : Kind) (cs : List Node)
    : (formatFlow .standard options kind cs).fault = firstFault (deadEndsFlow cs) := by
  cases cs with
  | nil => rfl
  | cons c cs =>
      have head : (formatNode .standard options c).fault = _ := fault_formatNode c
      rw [deadEndsFlow, firstFault_append, ← head, formatFlow]
      cases stopped : (formatNode .standard options c).fault with
      | some f => rfl
      | none => exact fault_formatRest kind .empty (formatNode_exact c stopped).ends cs
termination_by sizeOf cs

theorem fault_formatRest (kind : Kind) (carry : Carry) {n before : Node}
    (ends : Stays trail n.lastLeaf before.lastLeaf) (cs : List Node)
    : (formatRest .standard options kind carry before cs).fault
      = firstFault (deadEndsRest n cs) := by
  cases cs with
  | nil => rfl
  | cons c cs =>
      have head : (formatNode .standard options c).fault = _ := fault_formatNode c
      rw [deadEndsRest, firstFault_append, firstFault_append, ← head, formatRest]
      cases stopped : (formatNode .standard options c).fault with
      | some f => rfl
      | none =>
          have next := formatNode_exact c stopped
          have joint := failure?_resolve carry before (formatNode .standard options c).result
          rw [boundaryDeadEnds, ends.failure?, next.starts.failure?, ← boundaryDeadEnds] at joint
          rw [← joint]
          cases resolved : resolve .standard carry before
              (formatNode .standard options c).result with
          | error f => rfl
          | ok b =>
              obtain ⟨-, start⟩ := resolve_edits resolved
              exact fault_formatRest kind b.carry (next.ends.trans start.stays) cs
termination_by sizeOf cs

end

-----------------------------------------------------------------------------------------
-- Decisions between empty texts
-----------------------------------------------------------------------------------------

/-- A decision that follows the table wherever there is something to decide. Between two empty texts
it may reply as it likes. -/
def Decides (wants : Chars → Chars → Bool → Reply Bool) : Prop :=
  ∀ l r had b, ask l r had = some b → wants l r had = .value b

section Decides

variable {wants : Chars → Chars → Bool → Reply Bool} {l r : Chars}

theorem Decides.eq (h : Decides wants) (grounded : l ≠ [] ∨ r ≠ []) (had : Bool)
    : wants l r had = .value (spaceBetween classify l r had) := by
  apply h
  rw [ask, if_neg]
  rw [Bool.and_eq_true, List.isEmpty_iff, List.isEmpty_iff]
  exact fun ⟨noLeft, noRight⟩ => grounded.elim (· noLeft) (· noRight)

/-- Two runs are joined without a question about empty texts. -/
theorem Decides.join (h : Decides wants) (owed : Bool)
    : (Rules.ofDecision classify wants).join l r owed = Rules.standard.join l r owed := by
  simp only [Rules.standard, Rules.ofClasses, Rules.ofDecision, joinRuns]
  cases filled : (trimRight l).isEmpty with
  | false =>
      have wanted := h.eq (r := trimLeft r) (.inl (List.isEmpty_eq_false_iff.mp filled))
      cases (trimLeft r).isEmpty <;> simp only [wanted]
  | true => cases (trimLeft r).isEmpty <;> rfl

/-- A question that is not about two empty texts gets the usual reply. -/
theorem Decides.sameReply (h : Decides wants) {q : Query} (grounded : (Move.ask q).Grounded)
    : q.SameReply .standard (.ofDecision classify wants) := by
  cases q with
  | text s =>
      have gaps : (fun l r had => (wants [l] [r] had).isTrue)
          = fun l r had => spaceBetween classify [l] [r] had := by
        funext l r had
        rw [h.eq (.inl (List.cons_ne_nil _ _))]
        rfl
      simp only [Query.SameReply, Rules.ofDecision, gaps]
      rfl
  | math s => rfl
  | wants l r had => exact h.eq grounded had
  | join l r owed => exact h.join owed

theorem Decides.format_eq (h : Decides wants) (options : SpacingOptions) (tree : Node)
    : format (.ofDecision classify wants) options tree = format .standard options tree :=
  formatNode_agree tree fun _ asked => h.sameReply (grounded_of_mem tree asked)

end Decides

-----------------------------------------------------------------------------------------
-- Runs
-----------------------------------------------------------------------------------------

/-- A run of the usual rules fails exactly where, at a boundary of a flow that is reached through
containers, a container without children stands in place of a leaf. The error names the first of
these. No other move of the run fails, neither a descent at the end of a row nor a question; and no
question is about two empty texts, so that the reply to such a one is of no matter. -/
theorem format_fails_at_first_dead_end (options : SpacingOptions) (tree : Node)
    : let run := format .standard options tree
      (run.fault ≠ none ↔ ∃ d, DeadEndIn tree d)
      ∧ (∀ d, d ∈ deadEnds tree ↔ DeadEndIn tree d)
      ∧ run.fault.map Fault.toError
        = (deadEnds tree).head?.map (fun d => .emptyContainer d.kind.name d.edge.name)
      ∧ Course .standard (nodeMoves .standard options tree) run.fault
      ∧ ∀ wants, Decides wants → format (.ofDecision classify wants) options tree = run := by
  intro run
  have fault : run.fault = firstFault (deadEnds tree) := fault_formatNode tree
  refine ⟨?_, fun d => mem_deadEnds, ?_, course_formatNode tree, fun wants h => h.format_eq _ _⟩
  · simp only [fault, firstFault, ne_eq, Option.map_eq_none_iff, List.head?_eq_none_iff,
      List.eq_nil_iff_forall_not_mem, mem_deadEnds, not_forall, not_not]
  · rw [fault, firstFault, Option.map_map]
    rfl

/-- The emphasis is met before the strong text behind it, and it is no first child of the link; the
code before it is. -/
theorem dead_ends_of_nested_markup
    : let tree := Node.group .document [.flow .paragraph
        [.text ['中', 'a'] [], .flow (.link [] none) [.code [] [], .flow .emphasis [] []] [],
          .flow .strong [] []] []] []
      let wants := fun l r had =>
        if l.isEmpty && r.isEmpty then .foreign "NoneType" false
        else .value (spaceBetween classify l r had)
      Decides wants
      ∧ deadEnds tree = [⟨.emphasis, .first⟩, ⟨.emphasis, .last⟩, ⟨.strong, .first⟩]
      ∧ (format (.ofDecision classify wants) {} tree).fault = some (.deadEnd ⟨.emphasis, .first⟩)
      ∧ DeadEndIn tree ⟨.strong, .first⟩ := by
  intro tree wants
  have decides : Decides wants := by
    intro l r had b asked
    rw [ask] at asked
    split at asked
    · cases asked
    · next grounded => exact (if_neg grounded).trans (congrArg Reply.value (Option.some.inj asked))
  obtain ⟨-, listed, -, -, same⟩ := format_fails_at_first_dead_end {} tree
  refine ⟨decides, rfl, ?_, (listed _).mp (by decide)⟩
  rw [same wants decides]
  rfl

end MixedScript.Spacing
