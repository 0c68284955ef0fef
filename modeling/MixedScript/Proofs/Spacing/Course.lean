import MixedScript.Proofs.Document.Descent
import MixedScript.Proofs.Spacing.Step

/-! The course of a run: the leaves it looks for and the questions it asks, one after the other. All
of these go well up to the one that stops the run, and nothing else stops it. What rules would reply
to other questions has no part in the run. -/

namespace MixedScript.Spacing

variable {rules rules' : Rules} {options : SpacingOptions} {carry : Carry} {left right : Node}

-----------------------------------------------------------------------------------------
-- Questions and replies
-----------------------------------------------------------------------------------------

/-- A question together with what it is asked about. -/
inductive Query where
  | text (s : Chars)
  | math (s : Chars)
  | wants (left right : Chars) (had : Bool)
  | join (left right : Chars) (owed : Bool)

def Query.question : Query → Question
  | text _ => .text
  | math _ => .math
  | wants .. => .wants
  | join .. => .join

/-- What is wrong with a reply that should be a single value. -/
def Reply.complaint? {α : Type} : Reply α → Option Complaint
  | value _ => none
  | foreign typeName _ => some (.received typeName)

/-- What is wrong with the parts of a reply about a boundary. -/
def JoinReply.complaint? (reply : JoinReply) : Option Complaint :=
  if (reply.left.complaint? <|> reply.right.complaint?).isSome then some .foreignRuns
  else if (reply.insertSpace.complaint? <|> reply.owed.complaint?).isSome then some .foreignFlags
  else none

/-- What is wrong with the reply of rules to a question. -/
def Query.complaint? (rules : Rules) : Query → Option Complaint
  | text s => (rules.text s).complaint?
  | math s => (rules.math s).complaint?
  | wants l r had => (rules.wants l r had).complaint?
  | join l r owed =>
      match rules.join l r owed with
      | .value reply => reply.complaint?
      | .foreign typeName _ => some (.received typeName)

/-- Rules that reply alike to a question. -/
def Query.SameReply (rules rules' : Rules) : Query → Prop
  | text s => rules'.text s = rules.text s
  | math s => rules'.math s = rules.math s
  | wants l r had => rules'.wants l r had = rules.wants l r had
  | join l r owed => rules'.join l r owed = rules.join l r owed

theorem failure?_expectText (question : Question) (reply : Reply Chars)
    : failure? (expectText question reply) = reply.complaint?.map (.broken question) := by
  cases reply <;> rfl

theorem failure?_expectDecision (reply : Reply Bool)
    : failure? (expectDecision reply) = reply.complaint?.map (.broken .wants) := by
  cases reply <;> rfl

theorem failure?_expectBoundary (l r : Chars) (owed : Bool)
    : failure? (expectBoundary (rules.join l r owed))
      = ((Query.join l r owed).complaint? rules).map (.broken .join) := by
  rw [Query.complaint?]
  cases rules.join l r owed with
  | foreign => rfl
  | value reply =>
      obtain ⟨left, right, insertSpace, owed⟩ := reply
      cases left <;> cases right <;> cases insertSpace <;> cases owed <;> rfl

-----------------------------------------------------------------------------------------
-- Moves
-----------------------------------------------------------------------------------------

/-- What a run does that may fail. -/
inductive Move where
  /-- It looks for the leaf at an edge of a tree. -/
  | descend (edge : Edge) (n : Node)
  /-- It asks the rules. -/
  | ask (query : Query)

/-- Why a move fails. -/
def Move.fault? (rules : Rules) : Move → Option Fault
  | descend edge n => (failure? (n.edgeLeaf edge)).map .deadEnd
  | ask query => (query.complaint? rules).map (.broken query.question)

/-- The moves of a run go well up to the last one, whose fault is that of the run. -/
inductive Course (rules : Rules) : List Move → Option Fault → Prop
  | done {moves} (fine : ∀ p ∈ moves, p.fault? rules = none) : Course rules moves none
  | stopped {before move fault} (fine : ∀ p ∈ before, p.fault? rules = none)
    (fails : move.fault? rules = some fault)
    : Course rules (before ++ [move]) (some fault)

theorem Course.nil
    : Course rules [] none :=
  .done (by simp)

theorem Course.single (rules : Rules) (move : Move)
    : Course rules [move] (move.fault? rules) := by
  cases failing : move.fault? rules with
  | none => exact .done (by simpa using failing)
  | some fault => exact @Course.stopped rules [] move fault (by simp) failing

/-- Moves that go well may come before any others. -/
theorem Course.append {moves moves' : List Move} {fault : Option Fault}
    (h : Course rules moves none) (h' : Course rules moves' fault)
    : Course rules (moves ++ moves') fault := by
  obtain ⟨fine⟩ := h
  cases h' with
  | done fine' => exact .done fun p mem => (List.mem_append.mp mem).elim (fine p) (fine' p)
  | stopped fine' fails =>
      rw [← List.append_assoc]
      exact .stopped (fun p mem => (List.mem_append.mp mem).elim (fine p) (fine' p)) fails

/-- A move that succeeds may come before any others. -/
theorem Course.cons {move : Move} {moves : List Move} {fault : Option Fault}
    (well : move.fault? rules = none) (h : Course rules moves fault)
    : Course rules (move :: moves) fault := by
  have first := Course.single rules move
  rw [well] at first
  exact first.append h

/-- The fault of a course is that of each of its moves that fails. -/
theorem Course.fault_of_mem {moves : List Move} {fault : Option Fault} {move : Move} {f : Fault}
    (h : Course rules moves fault) (mem : move ∈ moves) (fails : move.fault? rules = some f)
    : fault = some f := by
  cases h with
  | done fine => rw [fine move mem] at fails; cases fails
  | stopped fine last =>
      rcases List.mem_append.mp mem with earlier | here
      · rw [fine move earlier] at fails; cases fails
      · rw [List.mem_singleton.mp here, last] at fails
        exact fails

/-- A fault stems from the last move. -/
theorem Course.exists_move {moves : List Move} {f : Fault} (h : Course rules moves (some f))
    : ∃ move ∈ moves, move.fault? rules = some f := by
  cases h with
  | stopped fine fails => exact ⟨_, by simp, fails⟩

-----------------------------------------------------------------------------------------
-- The moves of a boundary
-----------------------------------------------------------------------------------------

/-- The questions about two runs that touch. -/
def textQueries (rules : Rules) (carry : Carry) (left : Node) (l r : Chars) : List Query :=
  .join l r carry.owed ::
    match expectBoundary (rules.join l r carry.owed) with
    | .ok b => if repeatsCarried carry left b then [.wants carry.seen b.right true] else []
    | .error _ => []

/-- The questions about two leaves that touch. -/
def leafQueries (rules : Rules) (carry : Carry) (left : Node) : Node → Node → List Query
  | .text l _, .text r _ => textQueries rules carry left l r
  | .text l _, r =>
      if isToken r then [.wants (anchor (trimRight l)) sentinel (trimRight l != l)] else []
  | l, .text r _ =>
      if isToken l then [.wants sentinel (anchor (trimLeft r)) (trimLeft r != r)] else []
  | _, _ => []

/-- The moves of a boundary between two children of a flow. -/
def boundaryMoves (rules : Rules) (carry : Carry) (left right : Node) : List Move :=
  .descend .last left ::
    match left.lastLeaf with
    | .error _ => []
    | .ok l =>
        .descend .first right ::
          match right.firstLeaf with
          | .error _ => []
          | .ok r => (leafQueries rules carry left l r).map .ask

theorem failure?_bind {ε α β : Type} (x : Except ε α) (f : α → Except ε β)
    : failure? (x >>= f) = match x with
      | .error e => some e
      | .ok a => failure? (f a) := by
  cases x <;> rfl

/-- Work that is finished once a decision has been made. -/
theorem failure?_return {ε α β : Type} (x : Except ε α) (f : α → β)
    : failure? (do return f (← x)) = failure? x := by
  cases x <;> rfl

/-- A decision goes well if the reply is a truth value. -/
theorem course_decision (l r : Chars) (had : Bool)
    : Course rules [.ask (.wants l r had)] (failure? (expectDecision (rules.wants l r had))) := by
  rw [failure?_expectDecision]
  exact Course.single rules (.ask (.wants l r had))

/-- Two texts are joined once the rules have said how, and whether a carried space is repeated. -/
theorem course_texts (l r : Chars)
    : Course rules ((textQueries rules carry left l r).map .ask)
        (failure? (resolveTexts rules carry left right l r)) := by
  have asked := Course.single rules (.ask (.join l r carry.owed))
  simp only [Move.fault?, Query.question, ← failure?_expectBoundary] at asked
  rw [resolveTexts, failure?_bind, textQueries, List.map_cons]
  cases joined : expectBoundary (rules.join l r carry.owed) with
  | error f => rwa [joined] at asked
  | ok b =>
      rw [joined] at asked
      refine asked.append ?_
      simp only [failure?_return, keepsLeft]
      cases repeatsCarried carry left b with
      | false => exact .nil
      | true => exact course_decision _ _ _

/-- Leaves that have nothing to resolve raise no question. -/
theorem leafQueries_apart {l r : Node} (apart : Apart l r)
    : leafQueries rules carry left l r = [] := by
  obtain ⟨noText, noToken⟩ := apart
  cases l <;> cases r <;> simp [isTextRun, isToken] at noText noToken <;> rfl

theorem leafQueries_before_token {s : Chars} {m : Mapping} {t : Node} (token : isToken t = true)
    : leafQueries rules carry left (.text s m) t
      = [.wants (anchor (trimRight s)) sentinel (trimRight s != s)] := by
  cases t <;> first | rfl | cases token

theorem leafQueries_after_token {s : Chars} {m : Mapping} {t : Node} (token : isToken t = true)
    : leafQueries rules carry left t (.text s m)
      = [.wants sentinel (anchor (trimLeft s)) (trimLeft s != s)] := by
  cases t <;> first | rfl | cases token

/-- Between two leaves a boundary does nothing but ask the rules. -/
theorem course_leaves {l r : Node} (hl : left.lastLeaf = .ok l) (hr : right.firstLeaf = .ok r)
    : Course rules ((leafQueries rules carry left l r).map .ask)
        (failure? (resolve rules carry left right)) := by
  rcases touching l r with ⟨s, m, t, m', rfl, rfl⟩ | ⟨s, m, rfl, token⟩ | ⟨token, s, m, rfl⟩ | apart
  · rw [resolve_texts hl hr]
    exact course_texts s t
  · rw [resolve_before_token hl hr token, leafQueries_before_token token, failure?_return,
      spaceBeforeToken, failure?_return]
    exact course_decision _ _ _
  · rw [resolve_after_token hl hr token, leafQueries_after_token token, failure?_return,
      spaceAfterToken, failure?_return]
    exact course_decision _ _ _
  · rw [resolve_apart hl hr apart, leafQueries_apart apart]
    exact .nil

/-- A boundary is resolved once its leaves have been found and the rules have said what becomes of
them. -/
theorem course_resolve (carry : Carry) (left right : Node)
    : Course rules (boundaryMoves rules carry left right)
        (failure? (resolve rules carry left right)) := by
  have last := Course.single rules (.descend .last left)
  have first := Course.single rules (.descend .first right)
  simp only [Move.fault?, Node.edgeLeaf] at last first
  unfold boundaryMoves
  cases hl : left.lastLeaf with
  | error d =>
      rw [resolve, hl]
      rwa [hl] at last
  | ok l =>
      rw [hl] at last
      refine last.append ?_
      cases hr : right.firstLeaf with
      | error d =>
          rw [resolve, hl, hr]
          rwa [hr] at first
      | ok r =>
          rw [hr] at first
          exact first.append (course_leaves hl hr)

-----------------------------------------------------------------------------------------
-- The moves of a run
-----------------------------------------------------------------------------------------

mutual

/-- The moves of the work on a node. -/
def nodeMoves (rules : Rules) (options : SpacingOptions) : Node → List Move
  | .group _ cs _ => eachMoves rules options cs
  | .flow _ cs _ => flowMoves rules options cs
  | .text s _ => if options.text then [.ask (.text s)] else []
  | .math _ s _ => if options.math then [.ask (.math s)] else []
  | _ => []

/-- The moves of the work on the children of a group. -/
def eachMoves (rules : Rules) (options : SpacingOptions) : List Node → List Move
  | [] => []
  | n :: rest =>
    nodeMoves rules options n ++
      match (formatNode rules options n).fault with
      | some _ => []
      | none => eachMoves rules options rest

/-- The moves of the work on the children of a flow. -/
def flowMoves (rules : Rules) (options : SpacingOptions) : List Node → List Move
  | [] => []
  | n :: rest =>
    nodeMoves rules options n ++
      match (formatNode rules options n).fault with
      | some _ => []
      | none => restMoves rules options .empty (formatNode rules options n).result rest

/-- The moves of the work that goes on along the children of a flow. At its end the child that has
to take back owed whitespace is searched for its first leaf. -/
def restMoves (rules : Rules) (options : SpacingOptions) (carry : Carry) (before : Node) :
    List Node → List Move
  | [] => if carry.owed then [.descend .first before] else []
  | n :: rest =>
    nodeMoves rules options n ++
      match (formatNode rules options n).fault with
      | some _ => []
      | none =>
        boundaryMoves rules carry before (formatNode rules options n).result ++
          match resolve rules carry before (formatNode rules options n).result with
          | .error _ => []
          | .ok b => restMoves rules options b.carry b.right rest

end

/-- A child that is behind a boundary has a first leaf. -/
theorem firstLeaf_of_resolve_ok {b : Resolved} (h : resolve rules carry left right = .ok b)
    : ∃ l, b.right.firstLeaf = .ok l := by
  obtain ⟨-, r, hr⟩ := leaves_of_resolve_ok h
  rcases (resolve_shape h).2 with same | ⟨s, changed⟩
  · exact ⟨r, same ▸ hr⟩
  · obtain ⟨_, -, -, now⟩ := Node.firstLeaf_change (Node.textChange_withText s).leafMap right hr
    exact ⟨_, changed ▸ now⟩

theorem course_tidyLeaf (query : Query) {reply : Reply Chars} {old : Node} {new : Chars → Node}
    (asked : query.complaint? rules = reply.complaint?)
    : Course rules [.ask query] (tidyLeaf query.question reply old new).fault := by
  have single := Course.single rules (.ask query)
  simp only [Move.fault?, asked, ← failure?_expectText] at single
  cases answer : expectText query.question reply <;>
  · simp only [tidyLeaf, answer]
    rwa [answer] at single

mutual

/-- The work on a node goes well up to the move that stops it. By induction on the tree; along a
row, whitespace is owed only behind a boundary, and so by a child that has a first leaf. -/
theorem course_formatNode (n : Node)
    : Course rules (nodeMoves rules options n) (formatNode rules options n).fault := by
  cases n with
  | group form cs m => exact course_formatEach cs
  | flow form cs m => exact course_formatFlow form.kind cs
  | text s m =>
      simp only [nodeMoves, formatNode]
      split
      · exact course_tidyLeaf (.text s) rfl
      · exact .nil
  | math form s m =>
      simp only [nodeMoves, formatNode]
      split
      · exact course_tidyLeaf (.math s) rfl
      · exact .nil
  | code | note | inert => exact .nil
termination_by sizeOf n

theorem course_formatEach (cs : List Node)
    : Course rules (eachMoves rules options cs) (formatEach rules options cs).fault := by
  cases cs with
  | nil => exact .nil
  | cons c cs =>
      have head := course_formatNode c
      cases stopped : (formatNode rules options c).fault with
      | some f =>
          simp only [eachMoves, formatEach, stopped, List.append_nil]
          rwa [stopped] at head
      | none =>
          simp only [eachMoves, formatEach, stopped]
          rw [stopped] at head
          exact head.append (course_formatEach cs)
termination_by sizeOf cs

theorem course_formatFlow (kind : Kind) (cs : List Node)
    : Course rules (flowMoves rules options cs) (formatFlow rules options kind cs).fault := by
  cases cs with
  | nil => exact .nil
  | cons c cs =>
      have head := course_formatNode c
      cases stopped : (formatNode rules options c).fault with
      | some f =>
          simp only [flowMoves, formatFlow, stopped, List.append_nil]
          rwa [stopped] at head
      | none =>
          simp only [flowMoves, formatFlow, stopped]
          rw [stopped] at head
          exact head.append (course_formatRest kind .empty _ (by simp [Carry.empty]) cs)
termination_by sizeOf cs

theorem course_formatRest (kind : Kind) (carry : Carry) (before : Node)
    (found : carry.owed = true → ∃ l, before.firstLeaf = .ok l) (cs : List Node)
    : Course rules (restMoves rules options carry before cs)
        (formatRest rules options kind carry before cs).fault := by
  cases cs with
  | nil =>
      simp only [restMoves, formatRest]
      split
      · next owed =>
          obtain ⟨l, first⟩ := found owed
          exact Course.nil.cons (by rw [Move.fault?, Node.edgeLeaf, first]; rfl)
      · exact .nil
  | cons c cs =>
      have head := course_formatNode c
      cases stopped : (formatNode rules options c).fault with
      | some f =>
          simp only [restMoves, formatRest, stopped, List.append_nil]
          rwa [stopped] at head
      | none =>
          have joint := @course_resolve rules carry before (formatNode rules options c).result
          rw [stopped] at head
          cases resolved : resolve rules carry before (formatNode rules options c).result with
          | error f =>
              simp only [restMoves, formatRest, stopped, resolved, List.append_nil]
              rw [resolved] at joint
              exact head.append joint
          | ok b =>
              simp only [restMoves, formatRest, stopped, resolved]
              rw [resolved] at joint
              have rest := course_formatRest kind b.carry b.right
                (fun _ => firstLeaf_of_resolve_ok resolved) cs
              exact head.append (joint.append rest)
termination_by sizeOf cs

end

-----------------------------------------------------------------------------------------
-- What moves a run makes
-----------------------------------------------------------------------------------------

/-- What holds of all moves that single leaves, boundaries and the ends of rows can make. -/
structure HoldsOfMoves (rules : Rules) (P : Move → Prop) : Prop where
  text : ∀ s, P (.ask (.text s))
  math : ∀ s, P (.ask (.math s))
  boundary : ∀ carry left right, ∀ p ∈ boundaryMoves rules carry left right, P p
  ending : ∀ n, P (.descend .first n)

mutual

/-- It holds of all moves of a run. -/
theorem HoldsOfMoves.node {P : Move → Prop} (h : HoldsOfMoves rules P) (n : Node)
    : ∀ p ∈ nodeMoves rules options n, P p := by
  cases n with
  | group form cs m => exact h.each cs
  | flow form cs m => exact h.flow cs
  | text s m =>
      simp only [nodeMoves]
      split
      · simpa using h.text s
      · simp
  | math form s m =>
      simp only [nodeMoves]
      split
      · simpa using h.math s
      · simp
  | code | note | inert => simp [nodeMoves]
termination_by sizeOf n

theorem HoldsOfMoves.each {P : Move → Prop} (h : HoldsOfMoves rules P) (cs : List Node)
    : ∀ p ∈ eachMoves rules options cs, P p := by
  cases cs with
  | nil => simp [eachMoves]
  | cons c cs =>
      have head := h.node c
      have tail := h.each cs
      intro p mem
      rw [eachMoves, List.mem_append] at mem
      rcases mem with here | later
      · exact head p here
      · split at later
        · cases later
        · exact tail p later
termination_by sizeOf cs

theorem HoldsOfMoves.flow {P : Move → Prop} (h : HoldsOfMoves rules P) (cs : List Node)
    : ∀ p ∈ flowMoves rules options cs, P p := by
  cases cs with
  | nil => simp [flowMoves]
  | cons c cs =>
      have head := h.node c
      have tail := h.rest .empty (formatNode rules options c).result cs
      intro p mem
      rw [flowMoves, List.mem_append] at mem
      rcases mem with here | later
      · exact head p here
      · split at later
        · cases later
        · exact tail p later
termination_by sizeOf cs

theorem HoldsOfMoves.rest {P : Move → Prop} (h : HoldsOfMoves rules P) (carry : Carry)
    (before : Node) (cs : List Node)
    : ∀ p ∈ restMoves rules options carry before cs, P p := by
  cases cs with
  | nil =>
      simp only [restMoves]
      split
      · simpa using h.ending before
      · simp
  | cons c cs =>
      have head := h.node c
      have tail := fun (b : Resolved) => h.rest b.carry b.right cs
      intro p mem
      rw [restMoves, List.mem_append] at mem
      rcases mem with here | later
      · exact head p here
      · split at later
        · cases later
        · rcases List.mem_append.mp later with joint | later
          · exact h.boundary _ _ _ p joint
          · split at later
            · cases later
            · exact tail _ p later
termination_by sizeOf cs

end

/-- A question for a space is about something on one side at least. -/
def Move.Grounded : Move → Prop
  | .ask (.wants l r _) => l ≠ [] ∨ r ≠ []
  | _ => True

theorem grounded_textQueries {l r : Chars} {q : Query} (mem : q ∈ textQueries rules carry left l r)
    : (Move.ask q).Grounded := by
  rw [textQueries, List.mem_cons] at mem
  rcases mem with rfl | mem
  · trivial
  · split at mem
    · split at mem
      · next repeats =>
          simp only [repeatsCarried, Bool.and_eq_true, Bool.not_eq_true', List.isEmpty_eq_false_iff]
            at repeats
          obtain rfl := List.mem_singleton.mp mem
          exact .inr repeats.1.1.2
      · cases mem
    · cases mem

/-- No rules are ever asked for a space between two empty texts. -/
theorem grounded_of_mem {p : Move} (n : Node) (mem : p ∈ nodeMoves rules options n)
    : p.Grounded := by
  refine HoldsOfMoves.node ⟨fun _ => trivial, fun _ => trivial, ?_, fun _ => trivial⟩ n p mem
  intro carry left right p mem
  rw [boundaryMoves, List.mem_cons] at mem
  rcases mem with rfl | mem
  · trivial
  cases hl : left.lastLeaf with
  | error => rw [hl] at mem; cases mem
  | ok l =>
      rw [hl, List.mem_cons] at mem
      rcases mem with rfl | mem
      · trivial
      cases hr : right.firstLeaf with
      | error => rw [hr] at mem; cases mem
      | ok r =>
          rw [hr] at mem
          obtain ⟨q, asked, rfl⟩ := List.mem_map.mp mem
          have filled : sentinel ≠ [] := List.cons_ne_nil _ _
          rcases touching l r with ⟨s, m, t, m', rfl, rfl⟩ | ⟨s, m, rfl, token⟩ | ⟨token, s, m, rfl⟩
            | apart
          · exact grounded_textQueries asked
          · rw [leafQueries_before_token token] at asked
            obtain rfl := List.mem_singleton.mp asked
            exact .inr filled
          · rw [leafQueries_after_token token] at asked
            obtain rfl := List.mem_singleton.mp asked
            exact .inl filled
          · rw [leafQueries_apart apart] at asked
            cases asked

-----------------------------------------------------------------------------------------
-- Replies that have no part in a run
-----------------------------------------------------------------------------------------

/-- Two rules reply alike to all questions among moves. -/
def Agree (rules rules' : Rules) (moves : List Move) : Prop :=
  ∀ q, .ask q ∈ moves → q.SameReply rules rules'

theorem Agree.earlier {moves moves' : List Move} (h : Agree rules rules' (moves ++ moves'))
    : Agree rules rules' moves :=
  fun q asked => h q (List.mem_append_left _ asked)

theorem Agree.later {moves moves' : List Move} (h : Agree rules rules' (moves ++ moves'))
    : Agree rules rules' moves' :=
  fun q asked => h q (List.mem_append_right _ asked)

/-- What becomes of two texts follows from the replies to the questions about them. -/
theorem resolveTexts_agree {l r : Chars}
    (h : ∀ q ∈ textQueries rules carry left l r, q.SameReply rules rules')
    : resolveTexts rules' carry left right l r = resolveTexts rules carry left right l r := by
  have joins : rules'.join l r carry.owed = rules.join l r carry.owed :=
    h (.join ..) (by simp [textQueries])
  simp only [resolveTexts, joins]
  cases joined : expectBoundary (rules.join l r carry.owed) with
  | error => rfl
  | ok b =>
      have keeps : keepsLeft rules' carry left b = keepsLeft rules carry left b := by
        unfold keepsLeft
        split
        · next repeats =>
            have wants := h (.wants carry.seen b.right true)
              (by simp [textQueries, joined, repeats])
            exact congrArg expectDecision wants
        · rfl
      simp only [bind, Except.bind, keeps]

/-- What becomes of a boundary follows from the replies to the questions about it. -/
theorem resolve_agree (h : Agree rules rules' (boundaryMoves rules carry left right))
    : resolve rules' carry left right = resolve rules carry left right := by
  cases hl : left.lastLeaf with
  | error => simp only [resolve, hl]; rfl
  | ok l =>
      cases hr : right.firstLeaf with
      | error => simp only [resolve, hl, hr]; rfl
      | ok r =>
          have asked : ∀ q ∈ leafQueries rules carry left l r, q.SameReply rules rules' := by
            intro q mem
            exact h q (by simp [boundaryMoves, hl, hr, mem])
          rcases touching l r with ⟨s, m, t, m', rfl, rfl⟩ | ⟨s, m, rfl, token⟩ | ⟨token, s, m, rfl⟩
            | apart
          · rw [resolve_texts hl hr, resolve_texts hl hr]
            exact resolveTexts_agree asked
          · have wants := asked (.wants ..) (by rw [leafQueries_before_token token]; exact .head _)
            rw [Query.SameReply] at wants
            rw [resolve_before_token hl hr token, resolve_before_token hl hr token,
              spaceBeforeToken, spaceBeforeToken, wants]
          · have wants := asked (.wants ..) (by rw [leafQueries_after_token token]; exact .head _)
            rw [Query.SameReply] at wants
            rw [resolve_after_token hl hr token, resolve_after_token hl hr token,
              spaceAfterToken, spaceAfterToken, wants]
          · rw [resolve_apart hl hr apart, resolve_apart hl hr apart]

mutual

/-- What becomes of a node follows from the replies to the questions that are asked about it. -/
theorem formatNode_agree (n : Node) (h : Agree rules rules' (nodeMoves rules options n))
    : formatNode rules' options n = formatNode rules options n := by
  cases n with
  | group form cs m => rw [formatNode, formatNode, formatEach_agree cs h]
  | flow form cs m => rw [formatNode, formatNode, formatFlow_agree form.kind cs h]
  | text s m =>
      simp only [formatNode]
      split
      · next tidied =>
          have reply : rules'.text s = rules.text s := h (.text s) (by simp [nodeMoves, tidied])
          rw [reply]
      · rfl
  | math form s m =>
      simp only [formatNode]
      split
      · next tidied =>
          have reply : rules'.math s = rules.math s := h (.math s) (by simp [nodeMoves, tidied])
          rw [reply]
      · rfl
  | code | note | inert => rfl
termination_by sizeOf n

theorem formatEach_agree (cs : List Node) (h : Agree rules rules' (eachMoves rules options cs))
    : formatEach rules' options cs = formatEach rules options cs := by
  cases cs with
  | nil => rfl
  | cons c cs =>
      rw [eachMoves] at h
      have head := formatNode_agree c h.earlier
      simp only [formatEach, head]
      cases stopped : (formatNode rules options c).fault with
      | some f => rfl
      | none =>
          have rest := h.later
          rw [stopped] at rest
          simp only [formatEach_agree cs rest]
termination_by sizeOf cs

theorem formatFlow_agree (kind : Kind) (cs : List Node)
    (h : Agree rules rules' (flowMoves rules options cs))
    : formatFlow rules' options kind cs = formatFlow rules options kind cs := by
  cases cs with
  | nil => rfl
  | cons c cs =>
      rw [flowMoves] at h
      have head := formatNode_agree c h.earlier
      simp only [formatFlow, head]
      cases stopped : (formatNode rules options c).fault with
      | some f => rfl
      | none =>
          have rest := h.later
          rw [stopped] at rest
          simp only [formatRest_agree kind .empty _ cs rest]
termination_by sizeOf cs

theorem formatRest_agree (kind : Kind) (carry : Carry) (before : Node) (cs : List Node)
    (h : Agree rules rules' (restMoves rules options carry before cs))
    : formatRest rules' options kind carry before cs
      = formatRest rules options kind carry before cs := by
  cases cs with
  | nil => rfl
  | cons c cs =>
      rw [restMoves] at h
      have head := formatNode_agree c h.earlier
      simp only [formatRest, head]
      cases stopped : (formatNode rules options c).fault with
      | some f => rfl
      | none =>
          have onward := h.later
          rw [stopped] at onward
          have joint := resolve_agree onward.earlier
          simp only [joint]
          cases resolved : resolve rules carry before (formatNode rules options c).result with
          | error f => rfl
          | ok b =>
              have rest := onward.later
              rw [resolved] at rest
              simp only [formatRest_agree kind b.carry b.right cs rest]
termination_by sizeOf cs

end

end MixedScript.Spacing
