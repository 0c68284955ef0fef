import MixedScript.Markdown.TokenTree
import MixedScript.Proofs.Markdown.ImageText
import MixedScript.Proofs.Markdown.Pipe
import MixedScript.Proofs.Markdown.Placement

/-! Nodes in cells. Text is escaped for its cell, however deep it stands there, but destinations, titles,
labels, the texts of images, code, math and raw markup are written with their pipes as they are, and a pipe
among them that is not escaped yet ends the cell. -/

namespace MixedScript.Markdown

variable {rule : PipeRule} {guarded : Bool} {c : Context} {s t : Chars} {texts : List Chars}
  {n : Node} {nodes : List Node}

-----------------------------------------------------------------------------------------
-- Texts that cells do not escape
-----------------------------------------------------------------------------------------

/-- A title as it stands between its quotes. -/
def titleText (title : Option Chars) : Chars :=
  (title.getD []).flatMap escapeTitleChar

/-- The texts of a leaf that are written without regard to the pipes in them. -/
def bareTextsOfLeaf : Inert → List Chars
  | .htmlInline content => [content]
  | .image url alt title => [escapeBrackets alt, url, titleText title]
  | .imageReference identifier alt label style =>
      let label := referenceLabel identifier label
      match style with
      | .collapsed => [escapeBrackets alt]
      | .full => [escapeBrackets alt, label]
      | .shortcut => if alt == label then [escapeBrackets alt] else [escapeBrackets alt, label]
  | .footnoteReference identifier => [identifier]
  | _ => []

mutual

/-- The texts below a node that are written without regard to the pipes in them. -/
def bareTexts : Node → List Chars
  | .group _ cs _ => bareTextsOf cs
  | .flow form cs m =>
      match form with
      | .link url title =>
          if hasMark m "autolink" then [Node.plainTextOf [] cs]
          else bareTextsOf cs ++ [url, titleText title]
      | .linkReference identifier label style =>
          bareTextsOf cs ++ if style = .collapsed then [] else [referenceLabel identifier label]
      | _ => bareTextsOf cs
  | .math _ s _ => [s]
  | .code s _ => [s]
  | .inert leaf _ => bareTextsOfLeaf leaf
  | .text .. => []
  | .note .. => []

/-- The texts below several nodes that are written without regard to the pipes in them. -/
def bareTextsOf : List Node → List Chars
  | [] => []
  | n :: rest => bareTexts n ++ bareTextsOf rest

end

/-- A node that may stand in a cell. Raw markup there is a tag. -/
inductive CellNode : Node → Prop
  | text {s m} : CellNode (.text s m)
  | math {form s m} : CellNode (.math form s m)
  | code {s m} : CellNode (.code s m)
  | tag {s m} (opens : s.head? = some '<') (closes : s.getLast? = some '>')
    : CellNode (.inert (.htmlInline s) m)
  | lineBreak {soft m} : CellNode (.inert (.lineBreak soft) m)
  | image {url alt title m} : CellNode (.inert (.image url alt title) m)
  | imageReference {identifier alt label style m}
    : CellNode (.inert (.imageReference identifier alt label style) m)
  | footnoteReference {identifier m} : CellNode (.inert (.footnoteReference identifier) m)
  | span {form cs m} (span : isSpan form = true) (inside : ∀ n ∈ cs, CellNode n)
    : CellNode (.flow form cs m)

theorem anyHoldsCells_of_none (each : ∀ n ∈ nodes, holdsCells n = false)
    : anyHoldsCells nodes = false := by
  induction nodes with
  | nil => rfl
  | cons n nodes ih =>
      obtain ⟨here, later⟩ := List.forall_mem_cons.mp each
      rw [anyHoldsCells, here, ih later]
      rfl

theorem holdsCells_cellNode (node : CellNode n)
    : holdsCells n = false := by
  induction node with
  | @span form cs m _ _ ih => cases form <;> simp [holdsCells, anyHoldsCells_of_none ih]
  | _ => rfl

theorem after_cellNode (node : CellNode n) (c : Context)
    : c.after n = c := by
  simp [Context.after, holdsCells_cellNode node]

-----------------------------------------------------------------------------------------
-- Pieces of a cell
-----------------------------------------------------------------------------------------

/-- What may come before a piece of a cell: it ends in no backslash that escapes what follows. A backslash
that is escaped itself guards what follows under one of the rules all the same. -/
def PipeRule.Settled (rule : PipeRule) (guarded : Bool) : Prop :=
  rule = .odd → guarded = false

/-- A part of a cell whose pipes are kept in the cell exactly if those of some texts in it are. -/
structure KeptWith (rule : PipeRule) (part : Chars) (texts : List Chars) : Prop where
  pipes : ∀ guarded, rule.Settled guarded →
    (openPipes rule guarded part = 0 ↔ PipesKept rule texts)
  settles : ∀ guarded, rule.Settled guarded → rule.Settled (rule.guardedAfter guarded part)

theorem settled_false
    : rule.Settled false :=
  fun _ => rfl

namespace KeptWith

variable {texts' : List Chars}

theorem append (first : KeptWith rule s texts) (second : KeptWith rule t texts')
    : KeptWith rule (s ++ t) (texts ++ texts') where
  pipes guarded settled := by
    rw [openPipes_append, Nat.add_eq_zero_iff, first.pipes guarded settled,
      second.pipes _ (first.settles guarded settled), pipesKept_append]
  settles guarded settled := by
    rw [PipeRule.guardedAfter, List.foldl_append]
    exact second.settles _ (first.settles guarded settled)

theorem of_neutral (neutral : ∀ x ∈ s, Neutral x)
    : KeptWith rule s [] where
  pipes guarded _ := by simp [openPipes_neutral neutral, PipesKept]
  settles guarded settled := by
    rcases s.eq_nil_or_concat' with rfl | ⟨start, last, rfl⟩
    · exact settled
    · rw [guardedAfter_concat (neutral last (by simp))]
      exact settled_false

/-- A text that ends in a neutral character and counts alike wherever it stands. -/
theorem of_count {last : Char} (neutral : Neutral last)
    (count : ∀ guarded, openPipes rule guarded (s ++ [last]) = openPipesOf rule texts)
    : KeptWith rule (s ++ [last]) texts where
  pipes guarded _ := by rw [count, openPipesOf_eq_zero]
  settles guarded _ := by
    rw [guardedAfter_concat neutral]
    exact settled_false

/-- A text between neutral characters. -/
theorem between {before behind : Chars} (opens : NeutralRun before) (closes : NeutralRun behind)
    (inside : openPipes rule false s = 0 ↔ PipesKept rule texts)
    : KeptWith rule (before ++ (s ++ behind)) texts where
  pipes guarded _ := by rw [openPipes_between rule opens closes, inside]
  settles guarded _ := by
    obtain ⟨start, last, rfl⟩ := (List.eq_nil_or_concat' behind).resolve_left closes.filled
    rw [← List.append_assoc, ← List.append_assoc,
      guardedAfter_concat (closes.neutral last (by simp))]
    exact settled_false

theorem bare_between {before behind : Chars} (rule : PipeRule) (opens : NeutralRun before)
    (closes : NeutralRun behind) (s : Chars)
    : KeptWith rule (before ++ (s ++ behind)) [s] :=
  between opens closes (pipesKept_self rule s)

theorem inside (kept : KeptWith rule s texts)
    : openPipes rule false s = 0 ↔ PipesKept rule texts :=
  kept.pipes false settled_false

end KeptWith

theorem guarding_backslash (settled : rule.Settled guarded)
    : rule.guarding guarded '\\' = true := by
  cases rule with
  | adjacent => rfl
  | odd => simp [PipeRule.guarding, settled rfl]

theorem settled_guarding (c : Char)
    : rule.Settled (rule.guarding true c) := by
  rintro rfl
  simp [PipeRule.guarding]

theorem keptWith_escaped (c : Char)
    : KeptWith rule ['\\', c] [] where
  pipes guarded settled := by simp [openPipes, guarding_backslash settled, PipesKept]
  settles guarded settled := by
    rw [PipeRule.guardedAfter, List.foldl_cons, guarding_backslash settled]
    exact settled_guarding c

/-- Text that is escaped for a cell keeps all its pipes there. -/
theorem keptWith_escapeFrom (before : Option Char) (s : Chars)
    : KeptWith rule (escapeFrom true before s) [] := by
  induction s generalizing before with
  | nil => exact .of_neutral (List.forall_mem_nil _)
  | cons c s ih =>
      unfold escapeFrom
      split
      · exact (keptWith_escaped c).append (ih (some c))
      · next plain =>
          have neutral : Neutral c := by
            constructor <;> rintro rfl <;> simp [mustEscape, alwaysEscaped] at plain
          exact (KeptWith.of_neutral (List.forall_mem_singleton.mpr neutral)).append (ih (some c))

-----------------------------------------------------------------------------------------
-- Leaves
-----------------------------------------------------------------------------------------

theorem neutralRun_ticks (s : Chars)
    : NeutralRun (ticksFor s) where
  filled := by simp [ticksFor]
  neutral x held := by
    rw [List.eq_of_mem_replicate held]
    decide

theorem keptWith_codeSpan (rule : PipeRule) (s : Chars)
    : KeptWith rule (codeSpan s) [s] := by
  have ticks := neutralRun_ticks s
  have blank : NeutralRun [' '] := by decide
  unfold codeSpan
  split
  · simpa using KeptWith.bare_between rule (ticks.append blank.neutral) (blank.append ticks.neutral) s
  · simpa using KeptWith.bare_between rule ticks ticks s

theorem exists_keptWith_math (form : MathForm) (s : Chars) (m : Mapping)
    : ∃ part,
        writePiece c (.math form s m) = .ok (.plain part)
        ∧ ∀ rule, KeptWith rule part [s] := by
  cases form with
  | inline =>
      refine ⟨mathSpan s, rfl, fun rule => ?_⟩
      have ticks := neutralRun_ticks s
      have dollar : NeutralRun ['$'] := by decide
      unfold mathSpan
      split
      · simpa using
          KeptWith.bare_between rule (dollar.append ticks.neutral) (ticks.append dollar.neutral) s
      · simpa using KeptWith.bare_between rule dollar dollar s
  | block =>
      refine ⟨_, rfl, fun rule => ?_⟩
      split
      · have dollars : NeutralRun ['$', '$'] := by decide
        simpa [displayMathSpan] using KeptWith.bare_between rule dollars dollars s
      · have opening : NeutralRun ['$', '$', '\n'] := by decide
        have closing : NeutralRun ['\n', '$', '$'] := by decide
        have feed : ∀ x, (x == '\n') = true → Neutral x := by
          intro x same
          rw [beq_iff_eq.mp same]
          decide
        have lines : openPipes rule false (Chars.dropEndWhile (· == '\n') s) = 0
            ↔ PipesKept rule [s] := by
          rw [openPipes_dropEndWhile feed, pipesKept_self]
        simpa [displayMathBlock] using KeptWith.between opening closing lines

/-- A destination and a title in parentheses. -/
theorem keptWith_target (url : Chars) (title : Option Chars)
    : KeptWith rule ('(' :: (destination url ++ titleSuffix title ++ [')'])) [url, titleText title] := by
  have paren : Neutral '(' ∧ Neutral ')' := by decide
  have angle : Neutral '<' ∧ Neutral '>' := by decide
  have quote : Neutral ' ' ∧ Neutral '\x22' := by decide
  have suffix : ∀ s, openPipes rule false (s ++ (titleSuffix title ++ [')']))
      = openPipes rule false s + openPipes rule false (titleText title) := by
    intro s
    have closing : openPipes rule false [')'] = 0 := by
      rw [openPipes_cons_neutral paren.2]
      rfl
    rcases title with - | - | ⟨first, more⟩
    · exact openPipes_append_neutral paren.2 false s []
    · exact openPipes_append_neutral paren.2 false s []
    · have written : titleSuffix (some (first :: more)) ++ [')']
          = ' ' :: '\x22' :: (titleText (some (first :: more)) ++ '\x22' :: [')']) := by
        simp [titleSuffix, titleText]
      rw [written, openPipes_append_neutral quote.1, openPipes_cons_neutral quote.2,
        openPipes_append_neutral quote.2, closing, Nat.add_zero]
  refine .of_count (s := '(' :: (destination url ++ titleSuffix title)) paren.2 (fun guarded => ?_)
  have sum : openPipesOf rule [url, titleText title]
      = openPipes rule false url + openPipes rule false (titleText title) := by
    simp [openPipesOf]
  rw [sum, List.cons_append, openPipes_cons_neutral paren.1, List.append_assoc, destination]
  split
  · have bracketed : '<' :: url ++ ['>'] ++ (titleSuffix title ++ [')'])
        = '<' :: (url ++ '>' :: (titleSuffix title ++ [')'])) := by
      simp
    have behind := suffix []
    rw [bracketed, openPipes_cons_neutral angle.1, openPipes_append_neutral angle.2]
    rw [List.nil_append, openPipes, Nat.zero_add] at behind
    rw [behind]
  · exact suffix url

/-- A text in brackets. -/
theorem keptWith_brackets {before : Chars} (opens : ∀ x ∈ before, Neutral x)
    (inside : openPipes rule false s = 0 ↔ PipesKept rule texts)
    : KeptWith rule (before ++ '[' :: (s ++ [']'])) texts := by
  have opening : NeutralRun ['['] := by decide
  have closing : NeutralRun [']'] := by decide
  simpa using KeptWith.between (opening.behind opens) closing inside

theorem keptWith_plainBrackets (inside : openPipes rule false s = 0 ↔ PipesKept rule texts)
    : KeptWith rule ('[' :: (s ++ [']'])) texts :=
  keptWith_brackets (List.forall_mem_nil _) inside

theorem keptWith_full (identifier : Chars) (label : Option Chars) (isLabel : Chars → Bool)
    (inside : openPipes rule false s = 0 ↔ PipesKept rule texts)
    : KeptWith rule (referenceText .full s identifier label isLabel)
        (texts ++ [referenceLabel identifier label]) := by
  have second := keptWith_plainBrackets (pipesKept_self rule (referenceLabel identifier label))
  rw [referenceText_full]
  simpa using (keptWith_plainBrackets inside).append second

theorem keptWith_image (rule : PipeRule) (alt url : Chars) (title : Option Chars)
    : KeptWith rule
        ('!' :: '[' :: (alt ++ ']' :: '(' :: (destination url ++ titleSuffix title ++ [')'])))
        [alt, url, titleText title] := by
  have mark : NeutralRun ['!'] := by decide
  have text := keptWith_brackets mark.neutral (pipesKept_self rule alt)
  simpa using text.append (keptWith_target url title)

theorem keptWith_imageReference (identifier alt : Chars) (label : Option Chars) (style : ReferenceStyle)
    : KeptWith rule ('!' :: referenceText style (escapeBrackets alt) identifier label (alt == ·))
        (bareTextsOfLeaf (.imageReference identifier alt label style)) := by
  have mark : NeutralRun ['!'] := by decide
  have text := pipesKept_self rule (escapeBrackets alt)
  have full := (KeptWith.of_neutral mark.neutral).append (keptWith_full identifier label (alt == ·) text)
  have alone := keptWith_brackets mark.neutral text
  cases style with
  | full => exact full
  | collapsed =>
      have brackets : NeutralRun ['[', ']'] := by decide
      simpa [bareTextsOfLeaf, referenceText] using alone.append (.of_neutral brackets.neutral)
  | shortcut =>
      rw [referenceText_shortcut]
      unfold bareTextsOfLeaf
      dsimp only
      split
      · exact alone
      · exact full

theorem exists_keptWith_leaf {leaf : Inert} {m : Mapping} (node : CellNode (.inert leaf m))
    (options : WriterOptions)
    : ∃ part,
        inertText options m leaf = .ok part
        ∧ ∀ rule, KeptWith rule part (bareTextsOfLeaf leaf) := by
  cases node with
  | @tag s _ opens closes =>
      refine ⟨s, rfl, fun rule => ?_⟩
      have angle : Neutral '<' ∧ Neutral '>' := by decide
      obtain ⟨more, started⟩ := List.head?_eq_some_iff.mp opens
      obtain ⟨start, ended⟩ := List.getLast?_eq_some_iff.mp closes
      have count : ∀ guarded, openPipes rule guarded s = openPipesOf rule [s] := by
        intro guarded
        rw [started, openPipes_cons_neutral angle.1, openPipesOf, openPipes_cons_neutral angle.1]
        rfl
      rw [ended] at count ⊢
      exact .of_count angle.2 count
  | @lineBreak soft =>
      have run : NeutralRun (if soft then ['\n'] else [' ', ' ', '\n']) := by cases soft <;> decide
      exact ⟨_, rfl, fun _ => .of_neutral run.neutral⟩
  | @image url alt title =>
      refine ⟨_, rfl, fun rule => ?_⟩
      simpa [bareTextsOfLeaf] using keptWith_image rule (escapeBrackets alt) url title
  | @imageReference identifier alt label style =>
      exact ⟨_, rfl, fun _ => keptWith_imageReference identifier alt label style⟩
  | @footnoteReference identifier =>
      refine ⟨_, rfl, fun rule => ?_⟩
      have opening : NeutralRun ['[', '^'] := by decide
      have closing : NeutralRun [']'] := by decide
      simpa [bareTextsOfLeaf] using KeptWith.bare_between rule opening closing identifier

-----------------------------------------------------------------------------------------
-- Spans
-----------------------------------------------------------------------------------------

theorem neutral_of_isRestBlank (blank : isRestBlank s = true)
    : ∀ x ∈ s, Neutral x :=
  fun x held => neutral_of_inlineBlank (List.all_eq_true.mp blank x held)

theorem neutralRun_marks (mark : EmphasisMark) (strong : Bool)
    : NeutralRun (marks mark strong) := by
  cases mark <;> cases strong <;> decide

theorem keptWith_wrap {d : Delimited} {lead delimiter trail : Chars}
    (inside : openPipes rule false d.content = 0 ↔ PipesKept rule texts)
    (leading : isRestBlank lead = true) (trailing : isRestBlank trail = true)
    (run : NeutralRun delimiter)
    : KeptWith rule (d.wrap lead delimiter trail) texts := by
  have wrapped := KeptWith.between (run.behind (neutral_of_isRestBlank leading))
    (run.append (neutral_of_isRestBlank trailing)) inside
  simpa [Delimited.wrap] using wrapped

/-- Delimiters and the spaces that are kept outside of them make no difference. -/
theorem keptWith_ofContent (delimiter : Delimiter) (kept : KeptWith rule s texts)
    (last next : Option Char)
    : KeptWith rule ((Piece.ofContent delimiter s).textIn last next) texts := by
  by_cases filled : Chars.trim Text.isInlineBlank s = []
  · rw [Piece.ofContent, filled]
    exact kept
  · obtain ⟨d, piece, same, content, leading, trailing⟩ := ofContent_visible delimiter filled
    have inside : openPipes rule false d.content = 0 ↔ PipesKept rule texts := by
      rw [content, openPipes_trim (fun _ => neutral_of_inlineBlank)]
      exact kept.inside
    rw [piece, Piece.textIn]
    cases delimiter with
    | deleted =>
        rw [Delimited.place, same]
        exact keptWith_wrap inside leading trailing (by decide)
    | emphasis tried strong =>
        obtain ⟨mark, lead, trail, placed, edges⟩ := d.exists_placed same
          (d.leading.getLast?.or last) (d.trailing.head?.or next)
        rw [placed]
        exact keptWith_wrap inside (edges.blank_lead leading) (edges.blank_trail trailing)
          (neutralRun_marks mark strong)

/-- A reference by its text. The label that is left out then is the text itself. -/
theorem keptWith_linkReference (identifier : Chars) (label : Option Chars) (style : ReferenceStyle)
    (kept : KeptWith rule s texts)
    : KeptWith rule (referenceText style s identifier label (s == ·))
        (texts ++ if style = .collapsed then [] else [referenceLabel identifier label]) := by
  have full := keptWith_full identifier label (s == ·) kept.inside
  cases style with
  | full => exact full
  | collapsed =>
      have alone := keptWith_plainBrackets kept.inside
      have brackets : NeutralRun ['[', ']'] := by decide
      simpa [referenceText] using alone.append (.of_neutral brackets.neutral)
  | shortcut =>
      rw [referenceText_shortcut]
      split
      · next same =>
          have both : openPipes rule false s = 0
              ↔ PipesKept rule (texts ++ [referenceLabel identifier label]) := by
            rw [pipesKept_append, ← kept.inside, ← pipesKept_self, ← beq_iff_eq.mp same, and_self]
          exact keptWith_plainBrackets both
      · exact full

-----------------------------------------------------------------------------------------
-- Nodes
-----------------------------------------------------------------------------------------

/-- Nodes that each keep their pipes, or do not, do so in a line. -/
theorem exists_keptWith_line
    (each : ∀ n ∈ nodes, c.after n = c ∧ ∃ piece,
      writePiece c n = .ok piece
      ∧ ∀ rule last next, KeptWith rule (piece.textIn last next) (bareTexts n))
    : ∃ pieces,
        writePieces c nodes = .ok pieces
        ∧ ∀ rule last, KeptWith rule (partsFrom last pieces).flatten (bareTextsOf nodes) := by
  induction nodes with
  | nil => exact ⟨[], rfl, fun _ _ => .of_neutral (by simp [partsFrom])⟩
  | cons n nodes ih =>
      obtain ⟨⟨same, piece, made, here⟩, later⟩ := List.forall_mem_cons.mp each
      obtain ⟨pieces, listed, behind⟩ := ih later
      refine ⟨piece :: pieces, ?_, fun rule last => ?_⟩
      · refine bind_eq_ok.mpr ⟨piece, made, bind_eq_ok.mpr ⟨pieces, ?_, rfl⟩⟩
        rwa [same]
      · rw [partsFrom, List.flatten_cons, bareTextsOf]
        exact (here rule _ _).append (behind rule _)

theorem CellNode.exists_keptWith (node : CellNode n) (cell : c.inTable = true)
    (escapes : c.options.escape = true)
    : ∃ piece,
        writePiece c n = .ok piece
        ∧ ∀ rule last next, KeptWith rule (piece.textIn last next) (bareTexts n) := by
  have leaf : ∀ leaf m, CellNode (.inert leaf m) → ∃ piece,
      writePiece c (.inert leaf m) = .ok piece
      ∧ ∀ rule last next, KeptWith rule (piece.textIn last next) (bareTexts (.inert leaf m)) := by
    intro leaf m node
    obtain ⟨part, written, kept⟩ := exists_keptWith_leaf node c.options
    exact ⟨.plain part, bind_eq_ok.mpr ⟨part, written, rfl⟩, fun rule _ _ => kept rule⟩
  induction node with
  | @text s =>
      refine ⟨_, rfl, fun rule _ _ => ?_⟩
      have escaped : c.text s = escapeFrom true none s := by
        rw [Context.text, escapes, cell]
        rfl
      rw [Piece.textIn, escaped]
      exact keptWith_escapeFrom none s
  | @math form s m =>
      obtain ⟨part, written, kept⟩ := exists_keptWith_math (c := c) form s m
      exact ⟨_, written, fun rule _ _ => kept rule⟩
  | @code s => exact ⟨_, rfl, fun rule _ _ => keptWith_codeSpan rule s⟩
  | tag opens closes => exact leaf _ _ (.tag opens closes)
  | lineBreak => exact leaf _ _ .lineBreak
  | image => exact leaf _ _ .image
  | imageReference => exact leaf _ _ .imageReference
  | footnoteReference => exact leaf _ _ .footnoteReference
  | @span form cs m span inside ih =>
      obtain ⟨pieces, listed, kept⟩ :=
        exists_keptWith_line (fun n held => ⟨after_cellNode (inside n held) c, ih n held⟩)
      have line : ∀ rule, KeptWith rule (assemble pieces) (bareTextsOf cs) := by
        intro rule
        have whole := kept rule none
        rwa [← assembleFrom_eq_flatten] at whole
      cases form with
      | emphasis | strong | strikethrough =>
          exact ⟨_, bind_eq_ok.mpr ⟨pieces, listed, rfl⟩,
            fun rule last next => keptWith_ofContent _ (line rule) last next⟩
      | link url title =>
          cases direct : hasMark m "autolink" with
          | true =>
              refine ⟨.plain ('<' :: Node.plainTextOf [] cs ++ ['>']), by rw [writePiece, direct]; rfl,
                fun rule _ _ => ?_⟩
              have bare : bareTexts (.flow (.link url title) cs m) = [Node.plainTextOf [] cs] := by
                rw [bareTexts, direct]
                rfl
              have opening : NeutralRun ['<'] := by decide
              have closing : NeutralRun ['>'] := by decide
              rw [bare]
              exact KeptWith.bare_between rule opening closing _
          | false =>
              have bare : bareTexts (.flow (.link url title) cs m)
                  = bareTextsOf cs ++ [url, titleText title] := by
                rw [bareTexts, direct]
                rfl
              refine ⟨.plain ('[' :: assemble pieces ++ "](".toList ++ destination url
                ++ titleSuffix title ++ [')']), ?_, fun rule _ _ => ?_⟩
              · rw [writePiece, direct]
                exact bind_eq_ok.mpr ⟨pieces, listed, rfl⟩
              · have text := keptWith_plainBrackets (line rule).inside
                rw [bare]
                simpa [Piece.textIn] using text.append (keptWith_target url title)
      | linkReference identifier label style =>
          exact ⟨_, bind_eq_ok.mpr ⟨pieces, listed, rfl⟩,
            fun rule _ _ => keptWith_linkReference identifier label style (line rule)⟩
      | _ => cases span

end MixedScript.Markdown
