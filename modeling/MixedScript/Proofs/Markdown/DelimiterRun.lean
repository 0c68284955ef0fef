import MixedScript.Proofs.Markdown.Placement

/-! Runs of delimiters. A mark that would join a run of the same character is passed over, and what stands
before and after emphasis never runs into its delimiters. What it holds does where both marks stand at its
edges: then none is left, and the one that was tried first is written after all. -/

namespace MixedScript.Markdown

variable {c : Context} {e : Emphasised} {n : Node} {nodes : List Node} {piece : Piece} {pieces : List Piece}
  {mark outer : EmphasisMark} {strong : Bool} {l r content text : Chars}

-----------------------------------------------------------------------------------------
-- Text, code and emphasis
-----------------------------------------------------------------------------------------

/-- A tree of text, code and emphasis. -/
inductive Phrased : Node → Prop
  | text {s m} : Phrased (.text s m)
  | code {s m} : Phrased (.code s m)
  | emphasis {cs m} (inside : ∀ n ∈ cs, Phrased n) : Phrased (.flow .emphasis cs m)
  | strong {cs m} (inside : ∀ n ∈ cs, Phrased n) : Phrased (.flow .strong cs m)

theorem Phrased.inline (phrased : Phrased n)
    : Inline n := by
  induction phrased with
  | text => exact .text
  | code => exact .code
  | emphasis _ ih | strong _ ih => exact .span rfl ih

theorem phrased_inside (phrased : ∀ n ∈ e.line, Phrased n)
    : ∀ n ∈ e.inside, Phrased n := by
  have here : Phrased e.node := phrased _ (List.mem_append_right _ List.mem_cons_self)
  obtain ⟨before, strong, nodes, metadata, after⟩ := e
  cases strong <;> cases here <;> assumption

/-- A piece that does not start with a mark, as far as it is placed. -/
inductive Unmarked : Piece → Prop
  | plain {cs : Chars} (start : ∀ m : EmphasisMark, cs.head? ≠ some m.char) : Unmarked (.plain cs)
  | delimited {d : Delimited} (leading : isRestBlank d.leading = true) : Unmarked (.delimited d)

theorem mark_not_mem {blanks : Chars} (blank : isRestBlank blanks = true) (m : EmphasisMark)
    : m.char ∉ blanks := by
  intro held
  have := List.all_eq_true.mp blank _ held
  rw [isInlineBlank_mark] at this
  cases this

theorem head?_append_ne_mark {blanks : Chars} (blank : isRestBlank blanks = true) (m : EmphasisMark)
    (rest : Chars) (apart : blanks = [] → rest.head? ≠ some m.char)
    : (blanks ++ rest).head? ≠ some m.char := by
  cases blanks with
  | nil => exact apart rfl
  | cons x blanks =>
      intro same
      obtain rfl : x = m.char := Option.some.inj same
      exact mark_not_mem blank m List.mem_cons_self

/-- Marks are escaped at the start of a text. -/
theorem escapeText_head?_ne_mark (inTable : Bool) (s : Chars) (m : EmphasisMark)
    : (escapeText inTable s).head? ≠ some m.char := by
  cases s with
  | nil => exact nofun
  | cons x s =>
      rw [escapeText, escapeFrom]
      split
      · cases m <;> simp [EmphasisMark.char]
      · next plain =>
          intro same
          obtain rfl : x = m.char := Option.some.inj same
          cases m <;> simp [mustEscape, alwaysEscaped, EmphasisMark.char] at plain

theorem unmarked_ofContent (delimiter : Delimiter) (cs : Chars)
    : Unmarked (.ofContent delimiter cs) := by
  cases blank : Spacing.isBlankRun cs with
  | true =>
      rw [Piece.ofContent, trim_of_blank blank]
      exact .plain (fun m start => mark_not_mem blank m (List.mem_of_mem_head? start))
  | false =>
      obtain ⟨a, core, z, rfl, leading, solid, trailing⟩ := Spacing.exists_core blank
      have trimmed := Spacing.visiblePart_parts leading solid trailing
      obtain ⟨d, waits, -, -, blankLead, -⟩ :=
        ofContent_visible delimiter (trimmed.symm ▸ solid.ne_nil)
      rw [waits]
      exact .delimited blankLead

theorem unmarked_of_phrased (escapes : c.options.escape = true) (phrased : Phrased n)
    (made : writePiece c n = .ok piece)
    : Unmarked piece := by
  cases phrased with
  | @text s m =>
      obtain rfl := Except.ok.inj made
      rw [Context.text, escapes]
      exact .plain (escapeText_head?_ne_mark c.inTable s)
  | @code s m =>
      obtain rfl := Except.ok.inj made
      refine .plain (fun m => ?_)
      cases m <;> simp [codeSpan, ticksFor, List.replicate_succ, EmphasisMark.char]
  | emphasis | strong =>
      obtain ⟨pieces, -, made⟩ := bind_eq_ok.mp made
      obtain rfl := Except.ok.inj made
      exact unmarked_ofContent _ _

theorem options_after (c : Context) (n : Node)
    : (c.after n).options = c.options := by
  unfold Context.after
  split <;> rfl

theorem options_inner (e : Emphasised) (c : Context)
    : (e.inner c).options = c.options := by
  unfold Emphasised.inner
  induction e.before generalizing c with
  | nil => rfl
  | cons n before ih => rw [List.foldl_cons, ih, options_after]

theorem unmarked_pieces (escapes : c.options.escape = true) (phrased : ∀ n ∈ nodes, Phrased n)
    (written : writePieces c nodes = .ok pieces)
    : ∀ piece ∈ pieces, Unmarked piece := by
  induction nodes generalizing c pieces with
  | nil =>
      obtain rfl := Except.ok.inj written
      exact nofun
  | cons n rest ih =>
      obtain ⟨here, later⟩ := List.forall_mem_cons.mp phrased
      obtain ⟨piece, made, written⟩ := bind_eq_ok.mp written
      obtain ⟨pieces, listed, written⟩ := bind_eq_ok.mp written
      obtain rfl := Except.ok.inj written
      refine List.forall_mem_cons.mpr ⟨unmarked_of_phrased escapes here made, ?_⟩
      exact ih (by rw [options_after, escapes]) later listed

/-- Emphasis behind a mark does not start with the same. -/
theorem head?_place_ne_mark {d : Delimited} (leading : isRestBlank d.leading = true) (m : EmphasisMark)
    (next : Option Char) (rest : Chars)
    : (d.place (d.leading.getLast?.or (some m.char)) next ++ rest).head? ≠ some m.char := by
  cases tried : d.delimiter with
  | deleted =>
      have placed : ∀ previous, d.place previous next = d.wrap d.leading ['~', '~'] d.trailing := by
        simp [Delimited.place, tried, Delimiter.text]
      simp only [placed, Delimited.wrap, List.append_assoc]
      refine head?_append_ne_mark leading m _ (fun _ => ?_)
      cases m <;> simp [EmphasisMark.char]
  | emphasis first strong =>
      obtain ⟨mark, lead, trail, placed, fits⟩ := Delimited.exists_placed tried
        (d.leading.getLast?.or (some m.char)) next
      obtain ⟨tail, shape⟩ := marks_head mark strong
      simp only [placed, Delimited.wrap, List.append_assoc]
      rcases fits.opens with ⟨rfl, apart, -⟩ | rfl
      · refine head?_append_ne_mark leading m _ (fun empty => ?_)
        rw [empty] at apart
        simpa [shape] using apart
      · refine head?_append_ne_mark ?_ m _ (fun empty => by simp at empty)
        simpa [isRestBlank, Text.isInlineBlank] using leading

theorem head?_parts_ne_mark (unmarked : ∀ piece ∈ pieces, Unmarked piece) (m : EmphasisMark)
    : (partsFrom (some m.char) pieces).flatten.head? ≠ some m.char := by
  induction pieces with
  | nil => exact nofun
  | cons piece rest ih =>
      obtain ⟨here, later⟩ := List.forall_mem_cons.mp unmarked
      cases here with
      | @plain cs start =>
          cases cs with
          | nil => exact ih later
          | cons x cs => exact start m
      | delimited leading => exact head?_place_ne_mark leading m _ _

-----------------------------------------------------------------------------------------
-- The sides of emphasis
-----------------------------------------------------------------------------------------

theorem Emphasised.Stands.not_behind_mark (stands : e.Stands c l mark content r)
    : l.getLast? ≠ some mark.char := by
  cases stands.settled with
  | @intro pieces behind d ahead lead trail mark _ _ _ leading trailing placed _ =>
      rcases placed.opens with ⟨rfl, apart, -⟩ | rfl
      · rw [List.getLast?_append]
        intro same
        rw [same] at apart
        exact apart rfl
      · rw [← List.append_assoc, List.getLast?_concat]
        cases mark <;> simp [EmphasisMark.char]

theorem Emphasised.Stands.not_before_mark (stands : e.Stands c l mark content r)
    (escapes : c.options.escape = true) (phrased : ∀ n ∈ e.line, Phrased n)
    : r.head? ≠ some mark.char := by
  cases stands.settled with
  | @intro pieces behind d ahead lead trail mark written held _ leading trailing placed _ =>
      refine head?_append_ne_mark (placed.blank_trail trailing) mark _ (fun empty => ?_)
      have ends : (d.wrap lead (marks mark e.strong) trail).getLast? = some mark.char := by
        obtain ⟨start, shape⟩ := marks_last mark e.strong
        simp only [Delimited.wrap, empty, List.append_nil, shape, ← List.append_assoc,
          List.getLast?_concat]
      rw [ends]
      exact head?_parts_ne_mark
        (fun piece later => unmarked_pieces escapes phrased written piece (held piece later)) mark

theorem Emphasised.Stands.edges (stands : e.Stands c l mark content r) (free : ¬ Crowds content)
    : content.head? ≠ some mark.char ∧ content.getLast? ≠ some mark.char := by
  cases stands.settled with
  | @intro pieces behind d ahead lead trail mark _ _ _ _ _ placed _ =>
      rcases placed.inside with ⟨first, last⟩ | crowds
      · rw [d.getLast?_content]
        exact ⟨fun same => first (Option.some.inj same).symm, fun same => last (Option.some.inj same).symm⟩
      · exact absurd crowds free

theorem Emphasised.Stands.filled (stands : e.Stands c l mark content r)
    : content ≠ [] := by
  cases stands with
  | intro _ _ _ _ _ filled => exact filled

-----------------------------------------------------------------------------------------
-- Runs
-----------------------------------------------------------------------------------------

/-- A delimiter in the text of a line, between the texts `l` and `r`: one that opens or closes emphasis in
the line, or one inside of such emphasis. -/
inductive Run : Context → List Node → Chars → EmphasisMark → Bool → Chars → Prop
  | opening {c : Context} {e : Emphasised} {l content r : Chars} {mark : EmphasisMark}
    (stands : e.Stands c l mark content r)
    : Run c e.line l mark e.strong (content ++ marks mark e.strong ++ r)
  | closing {c : Context} {e : Emphasised} {l content r : Chars} {mark : EmphasisMark}
    (stands : e.Stands c l mark content r)
    : Run c e.line (l ++ marks mark e.strong ++ content) mark e.strong r
  | inside {c : Context} {e : Emphasised} {l l' r r' lead trail : Chars} {mark outer : EmphasisMark}
    {strong : Bool}
    (stands : e.Stands c l outer (l' ++ marks mark strong ++ r') r)
    (run : Run (e.inner c) e.inside (lead ++ l') mark strong (r' ++ trail))
    (leading : isRestBlank lead = true) (trailing : isRestBlank trail = true)
    : Run c e.line (l ++ marks outer e.strong ++ l') mark strong (r' ++ marks outer e.strong ++ r)

theorem Run.writeLine_eq (run : Run c nodes l mark strong r)
    : writeLine c nodes = .ok (l ++ marks mark strong ++ r) := by
  cases run with
  | opening stands | closing stands | inside stands =>
      simp only [stands.writeLine_eq, List.append_assoc]

/-- No character beside a mark continues its run. -/
structure Maximal (l : Chars) (mark : EmphasisMark) (r : Chars) : Prop where
  before : l.getLast? ≠ some mark.char
  after : r.head? ≠ some mark.char

/-- Where something of its own stands beside a run, it does not matter what is further out. -/
theorem Maximal.moved {x x' y y' : Chars} (h : Maximal (x ++ l) mark (r ++ y))
    (left : l = [] → x'.getLast? ≠ some mark.char) (right : r = [] → y'.head? ≠ some mark.char)
    : Maximal (x' ++ l) mark (r ++ y') := by
  obtain ⟨before, after⟩ := h
  constructor
  · cases l with
    | nil => rw [List.append_nil]; exact left rfl
    | cons first l => rwa [List.getLast?_append_of_ne_nil _ (List.cons_ne_nil _ _)] at before ⊢
  · cases r with
    | nil => exact right rfl
    | cons first r => exact after

/-- Both marks stand at the edges of what is emphasised, somewhere in a line. -/
inductive Crowded : Context → List Node → Prop
  | here {c : Context} {e : Emphasised} {content : Chars} (written : e.body c = .ok content)
    (crowds : Crowds content)
    : Crowded c e.line
  | inside {c : Context} {e : Emphasised} (crowded : Crowded (e.inner c) e.inside) : Crowded c e.line

theorem Emphasised.Stands.crowded (stands : e.Stands c l mark content r) (crowds : Crowds content)
    : Crowded c e.line := by
  cases stands with
  | intro _ _ _ _ written _ => exact .here written crowds

-----------------------------------------------------------------------------------------
-- Runs that are maximal
-----------------------------------------------------------------------------------------

theorem Run.maximal (run : Run c nodes l mark strong r) (escapes : c.options.escape = true)
    (phrased : ∀ n ∈ nodes, Phrased n) (free : ¬ Crowded c nodes)
    : Maximal l mark r := by
  induction run with
  | @opening c e l content r mark stands =>
      have edges := stands.edges (fun crowds => free (stands.crowded crowds))
      refine ⟨stands.not_behind_mark, ?_⟩
      rw [List.append_assoc, List.head?_append_of_ne_nil _ stands.filled]
      exact edges.1
  | @closing c e l content r mark stands =>
      have edges := stands.edges (fun crowds => free (stands.crowded crowds))
      refine ⟨?_, stands.not_before_mark escapes phrased⟩
      rw [List.getLast?_append_of_ne_nil _ stands.filled]
      exact edges.2
  | @inside c e l l' r r' lead trail mark outer strong stands run _ _ ih =>
      obtain ⟨first, last⟩ := stands.edges (fun crowds => free (stands.crowded crowds))
      have maximal := ih (by rw [options_inner, escapes]) (phrased_inside phrased)
        (fun crowded => free (.inside crowded))
      rw [List.append_assoc r']
      -- A run at an edge of what is emphasised meets the mark around it, which is the other one.
      refine maximal.moved ?_ ?_
      · rintro rfl
        obtain ⟨more, shape⟩ := marks_head mark strong
        obtain ⟨start, outerShape⟩ := marks_last outer e.strong
        rw [outerShape, ← List.append_assoc, List.getLast?_concat]
        simpa [shape, eq_comm] using first
      · rintro rfl
        obtain ⟨start, shape⟩ := marks_last mark strong
        obtain ⟨more, outerShape⟩ := marks_head outer e.strong
        simpa [shape, outerShape, ← List.append_assoc, eq_comm] using last

-----------------------------------------------------------------------------------------
-- Runs that are not
-----------------------------------------------------------------------------------------

theorem exists_behind_blanks {blanks rest s : Chars} (blank : isRestBlank blanks = true)
    (same : blanks ++ rest = l ++ mark.char :: s)
    : ∃ l', l = blanks ++ l' ∧ rest = l' ++ mark.char :: s := by
  rcases List.append_eq_append_iff.mp same with cut | ⟨more, split, behind⟩
  · exact cut
  · cases more with
    | nil => exact ⟨[], by simpa using split.symm, behind.symm⟩
    | cons x more =>
        obtain ⟨rfl, -⟩ := List.cons.inj behind
        exact absurd (split ▸ List.mem_append_right _ List.mem_cons_self) (mark_not_mem blank mark)

theorem exists_before_blanks {blanks rest s : Chars} (blank : isRestBlank blanks = true)
    (same : rest ++ blanks = s ++ [mark.char] ++ r)
    : ∃ r', r = r' ++ blanks ∧ rest = s ++ [mark.char] ++ r' := by
  rcases List.append_eq_append_iff.mp same with ⟨more, split, behind⟩ | ⟨r', split, shape⟩
  · rcases List.eq_nil_or_concat' more with rfl | ⟨more, x, rfl⟩
    · exact ⟨[], by simpa using behind.symm, by simpa using split.symm⟩
    · rw [← List.append_assoc] at split
      obtain ⟨-, last⟩ := List.append_inj' split rfl
      obtain rfl := (List.cons.inj last).1
      exact absurd (by simp [behind]) (mark_not_mem blank mark)
  · exact ⟨r', shape, split⟩

/-- A run between blanks stands in what is left without them. -/
theorem exists_within {lead core trail : Chars} (leading : isRestBlank lead = true)
    (trailing : isRestBlank trail = true)
    (same : lead ++ (core ++ trail) = l ++ marks mark strong ++ r)
    : ∃ l' r', l = lead ++ l' ∧ r = r' ++ trail ∧ core = l' ++ marks mark strong ++ r' := by
  obtain ⟨more, starts⟩ := marks_head mark strong
  obtain ⟨start, ends⟩ := marks_last mark strong
  rw [List.append_assoc, starts, List.cons_append] at same
  obtain ⟨l', rfl, behind⟩ := exists_behind_blanks leading same
  rw [← List.cons_append, ← starts, ends, ← List.append_assoc, ← List.append_assoc] at behind
  obtain ⟨r', rfl, shape⟩ := exists_before_blanks trailing behind
  exact ⟨l', r', rfl, rfl, by rw [shape, ends, List.append_assoc l']⟩

/-- A run of what is emphasised is one of the line, and has the same text beside it there, up to blanks and
the marks around it. -/
theorem Run.outward (run : Run (e.inner c) e.inside l mark strong r)
    (written : writeLine c e.line = .ok text)
    : ∃ lead l' r' trail x y,
        l = lead ++ l'
        ∧ r = r' ++ trail
        ∧ isRestBlank lead = true
        ∧ isRestBlank trail = true
        ∧ Run c e.line (x ++ l') mark strong (r' ++ y) := by
  have visible : Spacing.isBlankRun (l ++ marks mark strong ++ r) = false := by
    obtain ⟨more, starts⟩ := marks_head mark strong
    simp [starts, Spacing.isBlankRun, isInlineBlank_mark]
  obtain ⟨lead, core, trail, shape, leading, solid, trailing⟩ := Spacing.exists_core visible
  have body : e.body c = .ok core := by
    refine bind_eq_ok.mpr ⟨_, run.writeLine_eq, ?_⟩
    rw [shape, Spacing.visiblePart_parts leading solid trailing]
    rfl
  obtain ⟨x, outer, y, stands⟩ := e.exists_stands written body solid.ne_nil
  obtain ⟨l', r', rfl, rfl, rfl⟩ := exists_within leading trailing shape.symm
  have lifted := Run.inside stands run leading trailing
  rw [List.append_assoc r'] at lifted
  exact ⟨lead, l', r', trail, _, _, rfl, rfl, leading, trailing, lifted⟩

theorem Crowded.exists_merged (crowded : Crowded c nodes) (written : writeLine c nodes = .ok text)
    : ∃ l mark strong r, Run c nodes l mark strong r ∧ ¬ Maximal l mark r := by
  induction crowded generalizing text with
  | @here c e content body crowds =>
      obtain ⟨m, starts, ends⟩ := crowds
      have filled : content ≠ [] := by
        rintro rfl
        cases starts
      obtain ⟨l, mark, r, stands⟩ := e.exists_stands written body filled
      by_cases same : mark = m
      · refine ⟨l, mark, e.strong, _, .opening stands, fun maximal => maximal.after ?_⟩
        rw [List.append_assoc, List.head?_append_of_ne_nil _ filled, starts, same]
      · have other : mark = EmphasisMark.other m := by
          cases mark <;> cases m <;> first | rfl | exact absurd rfl same
        refine ⟨_, mark, e.strong, r, .closing stands, fun maximal => maximal.before ?_⟩
        rw [List.getLast?_append_of_ne_nil _ filled, ends, other]
  | @inside c e crowded ih =>
      obtain ⟨inside, content⟩ := e.writeLine_inside written
      obtain ⟨l, mark, strong, r, run, merged⟩ := ih content
      obtain ⟨lead, l', r', trail, x, y, rfl, rfl, leading, trailing, lifted⟩ := run.outward written
      refine ⟨_, mark, strong, _, lifted, fun maximal => merged (maximal.moved ?_ ?_)⟩
      · exact fun _ ends => mark_not_mem leading mark (List.mem_of_mem_getLast? ends)
      · exact fun _ starts => mark_not_mem trailing mark (List.mem_of_mem_head? starts)

-----------------------------------------------------------------------------------------
-- Runs of a line
-----------------------------------------------------------------------------------------

/-- A line of text, code and emphasis, escaped, is always written, with delimiters around all emphasis that
holds anything. Its runs of delimiters do not merge, unless somewhere both marks stand at the edges of what
is emphasised. There one does. -/
theorem runs_maximal_iff (escapes : c.options.escape = true) (phrased : ∀ n ∈ nodes, Phrased n)
    : ∃ text,
        writeLine c nodes = .ok text
        ∧ (∀ e content, Emphasised.line e = nodes → e.body c = .ok content → content ≠ [] →
            ∃ l mark r, e.Stands c l mark content r)
        ∧ (∀ l mark strong r, Run c nodes l mark strong r → text = l ++ marks mark strong ++ r)
        ∧ ((∀ l mark strong r, Run c nodes l mark strong r → Maximal l mark r)
          ↔ ¬ Crowded c nodes) := by
  obtain ⟨text, written⟩ := exists_writeLine (fun n held => (phrased n held).inline) c
  refine ⟨text, written, ?_, ?_, ?_, ?_⟩
  · rintro e content rfl body filled
    exact e.exists_stands written body filled
  · intro l mark strong r run
    exact Except.ok.inj (written.symm.trans run.writeLine_eq)
  · intro maximal crowded
    obtain ⟨l, mark, strong, r, run, merged⟩ := crowded.exists_merged written
    exact merged (maximal l mark strong r run)
  · intro free l mark strong r run
    exact run.maximal escapes phrased free

/-- Strong emphasis at the start of emphasis, which takes the other mark. -/
theorem strong_inside_emphasis_runs
    : let e : Emphasised := ⟨[], false, [.flow .strong [.text ['a'] []] [], .text ['b'] []], [], []⟩
      let c := Context.root {}
      c.options.escape = true
      ∧ (∀ n ∈ e.line, Phrased n)
      ∧ writeLine c e.line = .ok "_**a**b_".toList
      ∧ (∃ l mark r, e.Stands c l mark "**a**b".toList r)
      ∧ (∀ l mark strong r, Run c e.line l mark strong r →
          "_**a**b_".toList = l ++ marks mark strong ++ r)
      ∧ ((∀ l mark strong r, Run c e.line l mark strong r → Maximal l mark r)
        ↔ ¬ Crowded c e.line) := by
  intro e c
  have phrased : ∀ n ∈ e.line, Phrased n := by
    simpa [e, Emphasised.line, Emphasised.node]
      using Phrased.emphasis (by simpa using ⟨.strong (by simpa using .text), .text⟩)
  have written : writeLine c e.line = .ok "_**a**b_".toList := ok_of_toOption (by decide +kernel)
  have body : e.body c = .ok "**a**b".toList := ok_of_toOption (by decide +kernel)
  have escapes : c.options.escape = true := rfl
  obtain ⟨text, made, stands, runs, maximal⟩ := runs_maximal_iff escapes phrased
  obtain rfl := Except.ok.inj (written.symm.trans made)
  exact ⟨escapes, phrased, written, stands e _ rfl body (by decide), runs, maximal⟩

/-- Two runs of emphasis take both marks, so that the emphasis around them has none left: its opening
delimiter merges with the one inside. -/
theorem emphasis_around_both_marks_merges
    : let nodes : List Node :=
        [.flow .emphasis [.flow .emphasis [.text ['a'] []] [], .flow .emphasis [.text ['b'] []] []] []]
      let c := Context.root {}
      c.options.escape = true
      ∧ (∀ n ∈ nodes, Phrased n)
      ∧ writeLine c nodes = .ok "**a*_b_*".toList
      ∧ Run c nodes [] .star false "*a*_b_*".toList
      ∧ ¬ Maximal [] .star "*a*_b_*".toList := by
  intro nodes c
  let e : Emphasised :=
    ⟨[], false, [.flow .emphasis [.text ['a'] []] [], .flow .emphasis [.text ['b'] []] []], [], []⟩
  have phrased : ∀ n ∈ nodes, Phrased n := by
    have single : ∀ x, Phrased (.flow .emphasis [.text [x] []] []) :=
      fun x => .emphasis (by simpa using .text)
    simpa [nodes] using Phrased.emphasis (by simpa using ⟨single 'a', single 'b'⟩)
  have written : writeLine c nodes = .ok "**a*_b_*".toList := ok_of_toOption (by decide +kernel)
  have content : e.body c = .ok "*a*_b_".toList := ok_of_toOption (by decide +kernel)
  have parts : writeParts c e.line
      = .ok ([] ++ ([] ++ marks .star false ++ "*a*_b_".toList ++ marks .star false ++ []) :: []) :=
    ok_of_toOption (by decide +kernel)
  have stands : e.Stands c [] .star "*a*_b_".toList [] :=
    .intro parts rfl rfl rfl content (by decide)
  exact ⟨rfl, phrased, written, .opening stands, fun maximal => maximal.after rfl⟩

end MixedScript.Markdown
