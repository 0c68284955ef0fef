import MixedScript.Markdown.Writer
import MixedScript.Proofs.Markdown.LineStart
import MixedScript.Proofs.Result
import MixedScript.Proofs.Spacing.Trim

/-! Emphasis in a line. Its delimiters are placed before what follows is, and by a guess at how that will
start. The guess may be wrong, since what follows may choose another mark or keep a space, but then either
character lets emphasis close. -/

namespace MixedScript.Markdown

variable {c : Context} {pieces : List Piece} {d : Delimited} {mark : EmphasisMark} {text inside : Chars}

-----------------------------------------------------------------------------------------
-- The parts of a line
-----------------------------------------------------------------------------------------

/-- The text of a piece between the last character before it and the one that is guessed to follow. -/
def Piece.textIn (last next : Option Char) : Piece → Chars
  | plain cs => cs
  | delimited d => d.place (d.leading.getLast?.or last) (d.trailing.head?.or next)

/-- The text of each piece of a line, given the last character that was written. -/
def partsFrom (last : Option Char) : List Piece → List Chars
  | [] => []
  | piece :: rest =>
    let part := piece.textIn last (firstCharOf? rest)
    part :: partsFrom (part.getLast?.or last) rest

theorem assembleFrom_eq_flatten (last : Option Char) (pieces : List Piece)
    : assembleFrom last pieces = (partsFrom last pieces).flatten := by
  induction pieces generalizing last with
  | nil => rfl
  | cons piece rest ih =>
      rw [partsFrom, List.flatten_cons, ← ih]
      cases piece <;> simp [assembleFrom, Piece.textIn]

/-- What pieces become depends on those before them by the last character only. -/
theorem partsFrom_append (last : Option Char) (ahead behind : List Piece)
    : ∃ parts,
        parts.length = ahead.length
        ∧ partsFrom last (ahead ++ behind)
          = parts ++ partsFrom (parts.flatten.getLast?.or last) behind := by
  induction ahead generalizing last with
  | nil => exact ⟨[], rfl, by simp⟩
  | cons piece ahead ih =>
      let part := piece.textIn last (firstCharOf? (ahead ++ behind))
      obtain ⟨parts, same, split⟩ := ih (part.getLast?.or last)
      refine ⟨part :: parts, by simp [same], ?_⟩
      rw [List.flatten_cons, List.getLast?_append, Option.or_assoc]
      exact congrArg (part :: ·) split

/-- The texts of nodes in a line, one for each. -/
def writeParts (c : Context) (nodes : List Node) : Except WriteFault (List Chars) := do
  return partsFrom none (← writePieces c nodes)

/-- The text of nodes in a line. -/
def writeLine (c : Context) (nodes : List Node) : Except WriteFault Chars := do
  return assemble (← writePieces c nodes)

theorem writeLine_of_parts {nodes : List Node} {parts : List Chars}
    (written : writeParts c nodes = .ok parts)
    : writeLine c nodes = .ok parts.flatten := by
  obtain ⟨pieces, listed, placed⟩ := bind_eq_ok.mp written
  obtain rfl := Except.ok.inj placed
  exact bind_eq_ok.mpr ⟨pieces, listed, congrArg _ (assembleFrom_eq_flatten none pieces)⟩

theorem writePieces_split {before after : List Node} {n : Node}
    (written : writePieces c (before ++ n :: after) = .ok pieces)
    : ∃ ahead piece behind,
        pieces = ahead ++ piece :: behind
        ∧ ahead.length = before.length
        ∧ writePiece (before.foldl Context.after c) n = .ok piece := by
  induction before generalizing c pieces with
  | nil =>
      obtain ⟨piece, made, written⟩ := bind_eq_ok.mp written
      obtain ⟨behind, -, written⟩ := bind_eq_ok.mp written
      obtain rfl := Except.ok.inj written
      exact ⟨[], piece, behind, rfl, rfl, made⟩
  | cons first before ih =>
      obtain ⟨head, -, written⟩ := bind_eq_ok.mp written
      obtain ⟨later, rest, written⟩ := bind_eq_ok.mp written
      obtain rfl := Except.ok.inj written
      obtain ⟨ahead, piece, behind, rfl, same, made⟩ := ih rest
      exact ⟨head :: ahead, piece, behind, rfl, by simp [same], made⟩

-----------------------------------------------------------------------------------------
-- Nodes that stand in lines
-----------------------------------------------------------------------------------------

/-- A flow inside a line. -/
def isSpan : Flow → Bool
  | .emphasis | .strong | .strikethrough | .link .. | .linkReference .. => true
  | _ => false

/-- A node that may stand in a line. -/
inductive Inline : Node → Prop
  | text {s m} : Inline (.text s m)
  | math {form s m} : Inline (.math form s m)
  | code {s m} : Inline (.code s m)
  | leaf {leaf m} (given : ∀ kind, leaf ≠ .unset kind) : Inline (.inert leaf m)
  | span {form cs m} (span : isSpan form = true) (inside : ∀ n ∈ cs, Inline n)
    : Inline (.flow form cs m)

theorem exists_writePieces {nodes : List Node}
    (each : ∀ n ∈ nodes, ∀ c, ∃ piece, writePiece c n = .ok piece) (c : Context)
    : ∃ pieces, writePieces c nodes = .ok pieces := by
  induction nodes generalizing c with
  | nil => exact ⟨[], rfl⟩
  | cons n rest ih =>
      obtain ⟨here, later⟩ := List.forall_mem_cons.mp each
      obtain ⟨piece, made⟩ := here c
      obtain ⟨pieces, listed⟩ := ih later (c.after n)
      exact ⟨piece :: pieces, bind_eq_ok.mpr ⟨piece, made, bind_eq_ok.mpr ⟨pieces, listed, rfl⟩⟩⟩

theorem Inline.exists_piece {n : Node} (inline : Inline n) (c : Context)
    : ∃ piece, writePiece c n = .ok piece := by
  induction inline generalizing c with
  | text | code => exact ⟨_, rfl⟩
  | @math form => cases form <;> exact ⟨_, rfl⟩
  | @leaf leaf _ given =>
      cases leaf with
      | unset kind => exact absurd rfl (given kind)
      | _ => exact ⟨_, rfl⟩
  | @span form cs m span _ ih =>
      obtain ⟨pieces, listed⟩ := exists_writePieces ih c
      cases form with
      | link =>
          rw [writePiece]
          split
          · exact ⟨_, rfl⟩
          · exact ⟨_, bind_eq_ok.mpr ⟨pieces, listed, rfl⟩⟩
      | emphasis | strong | strikethrough | linkReference =>
          exact ⟨_, bind_eq_ok.mpr ⟨pieces, listed, rfl⟩⟩
      | _ => cases span

/-- Nodes that may stand in a line are always written. -/
theorem exists_writeLine {nodes : List Node} (inline : ∀ n ∈ nodes, Inline n) (c : Context)
    : ∃ text, writeLine c nodes = .ok text := by
  obtain ⟨pieces, listed⟩ := exists_writePieces (fun n held => (inline n held).exists_piece) c
  exact ⟨_, bind_eq_ok.mpr ⟨pieces, listed, rfl⟩⟩

-----------------------------------------------------------------------------------------
-- Placed delimiters
-----------------------------------------------------------------------------------------

theorem EmphasisMark.char_injective {m m' : EmphasisMark} (same : m.char = m'.char)
    : m = m' := by
  cases m <;> cases m' <;> first | rfl | cases same

theorem isInlineBlank_mark (m : EmphasisMark)
    : Text.isInlineBlank m.char = false := by
  cases m <;> decide

/-- Both marks stand at the edges of a text, one at each, so that there is none that touches neither. -/
def Crowds (content : Chars) : Prop :=
  ∃ m : EmphasisMark,
    content.head? = some m.char ∧ content.getLast? = some (EmphasisMark.other m).char

/-- How emphasis may be placed between two characters. Where its marks would not do, a space is kept
outside of them. -/
structure Delimited.Placed (d : Delimited) (previous following : Char) (mark : EmphasisMark)
    (lead trail : Chars) : Prop where
  opens : lead = d.leading ∧ mark.char ≠ previous ∧ canOpen previous d.first mark.char = true
    ∨ lead = d.leading ++ [' ']
  closes : trail = d.trailing ∧ canClose d.last following mark.char = true ∨ trail = ' ' :: d.trailing
  inside : mark.char ≠ d.first ∧ mark.char ≠ d.last ∨ Crowds d.content

section Edges

variable {p f : Char} {lead trail : Chars}

theorem Delimited.Placed.blank_lead (placed : d.Placed p f mark lead trail)
    (leading : isRestBlank d.leading = true)
    : isRestBlank lead = true := by
  rcases placed.opens with ⟨rfl, -⟩ | rfl
  · exact leading
  · simpa [isRestBlank, Text.isInlineBlank] using leading

theorem Delimited.Placed.blank_trail (placed : d.Placed p f mark lead trail)
    (trailing : isRestBlank d.trailing = true)
    : isRestBlank trail = true := by
  rcases placed.closes with ⟨rfl, -⟩ | rfl
  · exact trailing
  · simpa [isRestBlank, Text.isInlineBlank] using trailing

theorem Delimited.placed_of_works (suits : d.works p f mark = true)
    : d.Placed p f mark d.leading d.trailing := by
  simp only [works, Bool.and_eq_true, bne_iff_ne] at suits
  obtain ⟨⟨⟨⟨apart, noFirst⟩, noLast⟩, opens⟩, closes⟩ := suits
  exact ⟨.inl ⟨rfl, apart, opens⟩, .inl ⟨rfl, closes⟩, .inl ⟨noFirst, noLast⟩⟩

end Edges

theorem Delimited.getLast?_content (d : Delimited)
    : d.content.getLast? = some d.last :=
  List.getLast?_cons

/-- The last resort touches what is inside only if either mark would. -/
theorem Delimited.fallback_inside (d : Delimited) (tried : EmphasisMark)
    : (d.fallback tried).char ≠ d.first ∧ (d.fallback tried).char ≠ d.last ∨ Crowds d.content := by
  have other : (EmphasisMark.other tried).char ≠ tried.char := by cases tried <;> decide
  have back : EmphasisMark.other (EmphasisMark.other tried) = tried := by cases tried <;> rfl
  unfold fallback
  split
  · next free => simpa using Or.inl free
  · next taken =>
      split
      · next free => simpa using Or.inl free
      · next otherTaken =>
          simp only [Bool.and_eq_true, bne_iff_ne, not_and_or, not_not] at taken otherTaken
          rw [Crowds, d.getLast?_content, content, List.head?_cons]
          refine .inr ?_
          rcases taken with first | last
          · rcases otherTaken with same | last
            · exact absurd (same.trans first.symm) other
            · exact ⟨tried, congrArg some first.symm, congrArg some last.symm⟩
          · rcases otherTaken with first | same
            · exact ⟨EmphasisMark.other tried, congrArg some first.symm, by rw [back, last]⟩
            · exact absurd (same.trans last.symm) other

theorem Delimited.exists_placed {tried : EmphasisMark} {strong : Bool}
    (delimiter : d.delimiter = .emphasis tried strong) (previous following : Option Char)
    : ∃ mark lead trail,
        d.place previous following = d.wrap lead (marks mark strong) trail
        ∧ d.Placed (previous.getD ' ') (following.getD ' ') mark lead trail := by
  unfold place
  rw [delimiter]
  dsimp only
  split
  · next suits => exact ⟨_, _, _, rfl, placed_of_works suits⟩
  · split
    · next suits => exact ⟨_, _, _, rfl, placed_of_works suits⟩
    · refine ⟨_, _, _, rfl, ?_, ?_, d.fallback_inside tried⟩
      · split
        · exact .inr rfl
        · next fine =>
            obtain ⟨apart, opens⟩ := not_or.mp (mt Bool.or_eq_true_iff.mpr fine)
            exact .inl ⟨rfl, fun same => apart (beq_iff_eq.mpr same.symm), by simpa using opens⟩
      · split
        · exact .inr rfl
        · next fine => exact .inl ⟨rfl, by simpa using fine⟩

theorem marks_head (mark : EmphasisMark) (strong : Bool)
    : ∃ more, marks mark strong = mark.char :: more := by
  cases strong <;> exact ⟨_, rfl⟩

theorem marks_last (mark : EmphasisMark) (strong : Bool)
    : ∃ start, marks mark strong = start ++ [mark.char] := by
  cases strong with
  | false => exact ⟨[], rfl⟩
  | true => exact ⟨[mark.char], rfl⟩

theorem marks_unique {lead lead' s s' : Chars} {mark mark' : EmphasisMark} {strong : Bool}
    (blank : isRestBlank lead = true) (blank' : isRestBlank lead' = true)
    (same : lead ++ (marks mark strong ++ s) = lead' ++ (marks mark' strong ++ s'))
    : lead = lead' ∧ mark = mark' ∧ s = s' := by
  obtain ⟨tail, shape⟩ := marks_head mark strong
  obtain ⟨tail', shape'⟩ := marks_head mark' strong
  have leads := congrArg (List.takeWhile Text.isInlineBlank) same
  rw [shape, shape', List.cons_append, List.cons_append,
    takeWhile_indent blank (isInlineBlank_mark mark),
    takeWhile_indent blank' (isInlineBlank_mark mark')] at leads
  subst leads
  have rest := List.append_cancel_left same
  obtain rfl : mark = mark' := by
    rw [shape, shape'] at rest
    exact EmphasisMark.char_injective (List.cons.inj rest).1
  exact ⟨rfl, rfl, List.append_cancel_left rest⟩

theorem trim_of_blank {cs : Chars} (blank : Spacing.isBlankRun cs = true)
    : Chars.trim Text.isInlineBlank cs = [] := by
  have nothing : cs.dropWhile Text.isInlineBlank = [] := Spacing.trimLeft_eq_nil.mpr blank
  rw [Chars.trim, nothing]
  rfl

theorem ofContent_visible {cs : Chars} (delimiter : Delimiter)
    (filled : Chars.trim Text.isInlineBlank cs ≠ [])
    : ∃ d,
        Piece.ofContent delimiter cs = .delimited d
        ∧ d.delimiter = delimiter
        ∧ d.content = Chars.trim Text.isInlineBlank cs
        ∧ isRestBlank d.leading = true
        ∧ isRestBlank d.trailing = true := by
  obtain ⟨first, more, trimmed⟩ := List.exists_cons_of_ne_nil filled
  have visible : Spacing.isBlankRun cs = false := by
    cases blank : Spacing.isBlankRun cs with
    | false => rfl
    | true => exact absurd (trim_of_blank blank) filled
  obtain ⟨lead, core, trail, shape, leading, solid, trailing⟩ := Spacing.exists_core visible
  have leads : Spacing.lead cs = lead := by rw [shape, Spacing.lead_parts leading solid]
  have trails : Spacing.trail cs = trail := by rw [shape, Spacing.trail_parts lead solid trailing]
  refine ⟨⟨delimiter, Spacing.lead cs, first, more, Spacing.trail cs⟩, ?_, rfl, trimmed.symm, ?_, ?_⟩
  · rw [Piece.ofContent, trimmed]
    rfl
  · rw [leads]
    exact leading
  · rw [trails]
    exact trailing

-----------------------------------------------------------------------------------------
-- What follows
-----------------------------------------------------------------------------------------

/-- A guess at a character that is right, or wrong where no letter or number is at stake. -/
def Foreseen (guess actual : Option Char) : Prop :=
  guess = actual
  ∨ Text.isAlphanumeric (guess.getD ' ') = false ∧ Text.isAlphanumeric (actual.getD ' ') = false

theorem canOpen_space (first mark : Char)
    : canOpen ' ' first mark = !Text.isBlank first := by
  simp [canOpen, show Text.isAlphanumeric ' ' = false by decide, show Text.isBlank ' ' = true by decide]

/-- Beside anything but a letter or a number, marks can close behind anything that is visible. -/
theorem canClose_of_not_alphanumeric {following : Char}
    (other : Text.isAlphanumeric following = false) (last mark : Char)
    : canClose last following mark = !Text.isBlank last := by
  cases blank : Text.isBlank following <;> simp [canClose, isPunctuationLike, other, blank]

theorem Foreseen.canClose_eq {guess actual : Option Char} (foreseen : Foreseen guess actual)
    (last mark : Char)
    : canClose last (guess.getD ' ') mark = canClose last (actual.getD ' ') mark := by
  rcases foreseen with rfl | ⟨guessed, found⟩
  · rfl
  · rw [canClose_of_not_alphanumeric guessed, canClose_of_not_alphanumeric found]

theorem not_alphanumeric_mark (mark : EmphasisMark)
    : Text.isAlphanumeric mark.char = false := by
  cases mark <;> decide

theorem foreseen_place (d : Delimited) (previous following : Option Char) (rest : Chars)
    : Foreseen (Piece.firstChar? (.delimited d)) (d.place previous following ++ rest).head? := by
  cases tried : d.delimiter with
  | deleted =>
      refine .inl ?_
      cases started : d.leading <;>
        simp [Piece.firstChar?, Delimited.place, Delimited.wrap, Delimiter.text, tried, started]
  | emphasis m strong =>
      obtain ⟨mark, lead, trail, placed, fits⟩ := d.exists_placed tried previous following
      obtain ⟨tail, shape⟩ := marks_head mark strong
      obtain ⟨tail', shape'⟩ := marks_head m strong
      rw [placed]
      cases started : d.leading with
      | cons x leading =>
          refine .inl ?_
          rcases fits.opens with ⟨rfl, -⟩ | rfl <;>
            simp [Piece.firstChar?, Delimited.wrap, started]
      | nil =>
          have guessed : Piece.firstChar? (.delimited d) = some m.char := by
            simp [Piece.firstChar?, Delimiter.text, tried, started, shape']
          refine .inr ⟨by rw [guessed]; exact not_alphanumeric_mark m, ?_⟩
          rcases fits.opens with ⟨rfl, -⟩ | rfl
          · simpa [Delimited.wrap, started, shape] using not_alphanumeric_mark mark
          · simpa [Delimited.wrap, started] using show Text.isAlphanumeric ' ' = false by decide

/-- The guess at how pieces will start is near enough. -/
theorem foreseen_parts (last : Option Char) (pieces : List Piece)
    : Foreseen (firstCharOf? pieces) (partsFrom last pieces).flatten.head? := by
  induction pieces generalizing last with
  | nil => exact .inl rfl
  | cons piece rest ih =>
      cases piece with
      | plain cs =>
          cases cs with
          | nil => exact ih last
          | cons x cs => exact .inl rfl
      | delimited d =>
          have filled : d.leading ++ d.delimiter.text ≠ [] := by
            refine List.append_ne_nil_of_right_ne_nil _ ?_
            cases d.delimiter with
            | deleted => exact List.cons_ne_nil _ _
            | emphasis m strong => cases strong <;> exact List.cons_ne_nil _ _
          obtain ⟨x, more, started⟩ := List.exists_cons_of_ne_nil filled
          have guess : firstCharOf? (.delimited d :: rest) = Piece.firstChar? (.delimited d) := by
            simp [firstCharOf?, Piece.firstChar?, started]
          rw [guess]
          exact foreseen_place d _ _ _

-----------------------------------------------------------------------------------------
-- Emphasis
-----------------------------------------------------------------------------------------

/-- Emphasis in a line: the nodes before it, how strong it is, the nodes inside, and those after it. -/
structure Emphasised where
  before : List Node
  strong : Bool
  inside : List Node
  metadata : Mapping
  after : List Node

namespace Emphasised

variable {e : Emphasised} {l r content : Chars}

def node (e : Emphasised) : Node :=
  .flow (if e.strong then .strong else .emphasis) e.inside e.metadata

def line (e : Emphasised) : List Node :=
  e.before ++ e.node :: e.after

/-- The context of the nodes inside. -/
def inner (e : Emphasised) (c : Context) : Context :=
  e.before.foldl Context.after c

/-- What is emphasised as it is written, without the spaces and tabs at its edges. -/
def body (e : Emphasised) (c : Context) : Except WriteFault Chars := do
  return Chars.trim Text.isInlineBlank (← writeLine (e.inner c) e.inside)

/-- Where emphasis stands in the text of its line: between the texts `l` and `r`, with marks around its
content. Spaces and tabs at the edges of the content stand outside of the marks. -/
inductive Stands (c : Context) (e : Emphasised) : Chars → EmphasisMark → Chars → Chars → Prop
  | intro {ahead behind : List Chars} {lead trail content : Chars} {mark : EmphasisMark}
    (parts : writeParts c e.line
      = .ok (ahead
        ++ (lead ++ marks mark e.strong ++ content ++ marks mark e.strong ++ trail) :: behind))
    (index : ahead.length = e.before.length)
    (leading : isRestBlank lead = true) (trailing : isRestBlank trail = true)
    (written : e.body c = .ok content) (filled : content ≠ [])
    : Stands c e (ahead.flatten ++ lead) mark content (trail ++ behind.flatten)

theorem Stands.writeLine_eq (stands : e.Stands c l mark content r)
    : writeLine c e.line = .ok (l ++ marks mark e.strong ++ content ++ marks mark e.strong ++ r) := by
  cases stands with
  | intro parts =>
      rw [writeLine_of_parts parts]
      simp

theorem exists_inside {piece : Piece} (made : writePiece c e.node = .ok piece)
    : ∃ tried inside,
        writeLine c e.inside = .ok inside
        ∧ piece = .ofContent (.emphasis tried e.strong) inside := by
  obtain ⟨before, strong, nodes, metadata, after⟩ := e
  cases strong with
  | false =>
      obtain ⟨pieces, listed, made⟩ := bind_eq_ok.mp made
      exact ⟨c.options.emphasis, _, bind_eq_ok.mpr ⟨pieces, listed, rfl⟩, (Except.ok.inj made).symm⟩
  | true =>
      obtain ⟨pieces, listed, made⟩ := bind_eq_ok.mp made
      exact ⟨.star, _, bind_eq_ok.mpr ⟨pieces, listed, rfl⟩, (Except.ok.inj made).symm⟩

theorem writeLine_inside (written : writeLine c e.line = .ok text)
    : ∃ inside, writeLine (e.inner c) e.inside = .ok inside := by
  obtain ⟨pieces, listed, -⟩ := bind_eq_ok.mp written
  obtain ⟨ahead, piece, behind, -, -, made⟩ := writePieces_split listed
  obtain ⟨tried, inside, content, -⟩ := exists_inside made
  exact ⟨inside, content⟩

/-- Emphasis stands in one place. -/
theorem Stands.unique {l' r' content' : Chars} {mark' : EmphasisMark}
    (stands : e.Stands c l mark content r) (stands' : e.Stands c l' mark' content' r')
    : l = l' ∧ mark = mark' ∧ content = content' ∧ r = r' := by
  obtain ⟨parts, index, leading, -, written, -⟩ := stands
  obtain ⟨parts', index', leading', -, written', -⟩ := stands'
  obtain rfl := Except.ok.inj (written.symm.trans written')
  obtain ⟨rfl, same⟩ := List.append_inj (Except.ok.inj (parts.symm.trans parts')) (index.trans index'.symm)
  obtain ⟨part, rfl⟩ := List.cons.inj same
  simp only [List.append_assoc] at part
  obtain ⟨rfl, rfl, rest⟩ := marks_unique leading leading' part
  exact ⟨rfl, rfl, rfl, by rw [List.append_cancel_left (List.append_cancel_left rest)]⟩

/-- How emphasis came to stand where it does: its piece, placed behind the text before it and by a guess at
what follows it. -/
inductive Settled (c : Context) (e : Emphasised) : Chars → EmphasisMark → Chars → Chars → Prop
  | intro {pieces behind : List Piece} {d : Delimited} {ahead : List Chars} {lead trail : Chars}
    {mark : EmphasisMark}
    (written : writePieces c e.line = .ok pieces) (held : ∀ piece ∈ behind, piece ∈ pieces)
    (index : ahead.length = e.before.length)
    (leading : isRestBlank d.leading = true) (trailing : isRestBlank d.trailing = true)
    (placed : d.Placed ((d.leading.getLast?.or ahead.flatten.getLast?).getD ' ')
      ((d.trailing.head?.or (firstCharOf? behind)).getD ' ') mark lead trail)
    (parts : partsFrom none pieces
      = ahead
        ++ d.wrap lead (marks mark e.strong) trail
        :: partsFrom ((d.wrap lead (marks mark e.strong) trail).getLast?.or ahead.flatten.getLast?)
          behind)
    : Settled c e (ahead.flatten ++ lead) mark d.content
        (trail
          ++ (partsFrom
            ((d.wrap lead (marks mark e.strong) trail).getLast?.or ahead.flatten.getLast?)
            behind).flatten)

theorem Settled.stands (settled : e.Settled c l mark content r) (written : e.body c = .ok content)
    : e.Stands c l mark content r := by
  cases settled with
  | @intro pieces behind d ahead lead trail _ listed _ index leading trailing placed parts =>
      exact .intro (bind_eq_ok.mpr ⟨pieces, listed, congrArg _ parts⟩) index
        (placed.blank_lead leading) (placed.blank_trail trailing) written (List.cons_ne_nil _ _)

theorem exists_settled (listed : writePieces c e.line = .ok pieces)
    (written : e.body c = .ok content) (filled : content ≠ [])
    : ∃ l mark r, e.Settled c l mark content r := by
  obtain ⟨ahead, piece, behind, rfl, index, made⟩ := writePieces_split listed
  obtain ⟨tried, inside, line, rfl⟩ := exists_inside made
  obtain ⟨same, line', trimmed⟩ := bind_eq_ok.mp written
  obtain rfl := Except.ok.inj (line.symm.trans line')
  obtain rfl := Except.ok.inj trimmed
  obtain ⟨d, waits, delimiter, content, leading, trailing⟩ :=
    ofContent_visible (.emphasis tried e.strong) filled
  obtain ⟨parts, length, parted⟩ := partsFrom_append none ahead (.delimited d :: behind)
  obtain ⟨mark, lead, trail, wrapped, placed⟩ := Delimited.exists_placed delimiter
    (d.leading.getLast?.or parts.flatten.getLast?) (d.trailing.head?.or (firstCharOf? behind))
  have held : ∀ piece ∈ behind, piece ∈ ahead ++ .delimited d :: behind :=
    fun piece later => List.mem_append_right _ (List.mem_cons_of_mem _ later)
  rw [waits] at listed
  rw [← content]
  refine ⟨_, mark, _, .intro listed held (length.trans index) leading trailing placed ?_⟩
  rw [parted, Option.or_none, partsFrom, Piece.textIn, wrapped]

theorem exists_stands (line : writeLine c e.line = .ok text) (written : e.body c = .ok content)
    (filled : content ≠ [])
    : ∃ l mark r, e.Stands c l mark content r := by
  obtain ⟨pieces, listed, -⟩ := bind_eq_ok.mp line
  obtain ⟨l, mark, r, settled⟩ := exists_settled listed written filled
  exact ⟨l, mark, r, settled.stands written⟩

theorem Stands.settled (stands : e.Stands c l mark content r)
    : e.Settled c l mark content r := by
  have ⟨written, filled⟩ : e.body c = .ok content ∧ content ≠ [] := by
    cases stands with
    | intro _ _ _ _ written filled => exact ⟨written, filled⟩
  obtain ⟨pieces, listed, -⟩ := bind_eq_ok.mp stands.writeLine_eq
  obtain ⟨l', mark', r', settled⟩ := exists_settled listed written filled
  obtain ⟨rfl, rfl, -, rfl⟩ := stands.unique (settled.stands written)
  exact settled

variable {first last : Char}

/-- Where emphasis stands, its marks can open. -/
theorem Stands.opens (stands : e.Stands c l mark content r) (starts : content.head? = some first)
    (visible : Text.isBlank first = false)
    : canOpen (l.getLast?.getD ' ') first mark.char = true := by
  cases stands.settled with
  | @intro pieces behind d ahead lead trail mark written held index leading trailing placed parts =>
      obtain rfl := Option.some.inj starts
      rcases placed.opens with ⟨rfl, -, opens⟩ | rfl
      · rwa [List.getLast?_append]
      · simpa [← List.append_assoc, canOpen_space] using visible

theorem Stands.closes (stands : e.Stands c l mark content r) (ends : content.getLast? = some last)
    (visible : Text.isBlank last = false)
    : canClose last (r.head?.getD ' ') mark.char = true := by
  cases stands.settled with
  | @intro pieces behind d ahead lead trail mark written held index leading trailing placed parts =>
      obtain rfl : d.last = last := by
        rw [d.getLast?_content] at ends
        exact Option.some.inj ends
      rcases placed.closes with ⟨rfl, closes⟩ | rfl
      · cases ended : d.trailing with
        | nil =>
            rw [ended] at closes
            rwa [List.nil_append, ← (foreseen_parts _ behind).canClose_eq]
        | cons x trailing => rwa [ended] at closes
      · simpa [canClose_of_not_alphanumeric (show Text.isAlphanumeric ' ' = false by decide)]
          using visible

end Emphasised

/-- Nodes that may stand in a line are always written, and whatever stands around emphasis in a line, its
marks can open and close where they are written, unless what is emphasised starts or ends with a blank
other than a space or a tab. -/
theorem emphasis_opens_and_closes (c : Context) (e : Emphasised)
    : ((∀ n ∈ e.line, Inline n) → ∃ text, writeLine c e.line = .ok text)
      ∧ ∀ text,
          writeLine c e.line = .ok text →
          ∃ content,
            e.body c = .ok content
            ∧ ∀ first last,
                content.head? = some first → content.getLast? = some last →
                Text.isBlank first = false → Text.isBlank last = false →
                ∃ l mark r,
                  e.Stands c l mark content r
                  ∧ text = l ++ marks mark e.strong ++ content ++ marks mark e.strong ++ r
                  ∧ canOpen (l.getLast?.getD ' ') first mark.char = true
                  ∧ canClose last (r.head?.getD ' ') mark.char = true := by
  refine ⟨fun inline => exists_writeLine inline c, ?_⟩
  intro text line
  obtain ⟨inside, written⟩ := e.writeLine_inside line
  refine ⟨_, bind_eq_ok.mpr ⟨inside, written, rfl⟩, ?_⟩
  intro first last starts ends firstVisible lastVisible
  have filled : Chars.trim Text.isInlineBlank inside ≠ [] := by
    intro empty
    rw [empty] at starts
    cases starts
  obtain ⟨l, mark, r, stands⟩ :=
    e.exists_stands line (bind_eq_ok.mpr ⟨inside, written, rfl⟩) filled
  exact ⟨l, mark, r, stands, Except.ok.inj (line.symm.trans stands.writeLine_eq),
    stands.opens starts firstVisible, stands.closes ends lastVisible⟩

/-- Two strong runs side by side: the first is closed before the second chooses its marks. -/
theorem adjacent_strong_opens_and_closes
    : let e : Emphasised :=
        ⟨[], true, [.text ['中'] []], [], [.flow .strong [.text ['文'] []] []]⟩
      let c := Context.root {}
      (∀ n ∈ e.line, Inline n)
      ∧ writeLine c e.line = .ok "**中**__文__".toList
      ∧ e.body c = .ok ['中']
      ∧ Text.isBlank '中' = false
      ∧ ∃ l mark r,
          e.Stands c l mark ['中'] r
          ∧ "**中**__文__".toList = l ++ marks mark true ++ ['中'] ++ marks mark true ++ r
          ∧ canOpen (l.getLast?.getD ' ') '中' mark.char = true
          ∧ canClose '中' (r.head?.getD ' ') mark.char = true := by
  intro e c
  have inline : ∀ n ∈ e.line, Inline n := by
    have single : ∀ x, Inline (.flow .strong [.text [x] []] []) :=
      fun x => .span rfl (by simpa using .text)
    simpa [e, Emphasised.line, Emphasised.node] using ⟨single '中', single '文'⟩
  have written : writeLine c e.line = .ok "**中**__文__".toList := ok_of_toOption (by decide +kernel)
  have content : e.body c = .ok ['中'] := ok_of_toOption (by decide +kernel)
  have visible : Text.isBlank '中' = false := by decide
  obtain ⟨made, placed⟩ := emphasis_opens_and_closes c e
  obtain ⟨text, line⟩ := made inline
  obtain rfl := Except.ok.inj (written.symm.trans line)
  obtain ⟨shown, body, stands⟩ := placed _ line
  obtain rfl := Except.ok.inj (content.symm.trans body)
  exact ⟨inline, written, content, visible, stands '中' '中' rfl rfl visible visible⟩

end MixedScript.Markdown
