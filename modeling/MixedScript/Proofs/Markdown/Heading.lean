import MixedScript.Proofs.Markdown.HeldText
import MixedScript.Proofs.Markdown.LineEnd
import MixedScript.Proofs.Markdown.Table
import MixedScript.Proofs.Text.Runs

/-! Headings read back. The number signs at the end of a heading close it where a blank stands before them or
nothing else does, and escaping text keeps only the first character of a run from that. A heading is therefore
read back unless the last run that shows in it ends in number signs behind a blank. -/

namespace MixedScript.Markdown

variable {c : Context} {n : Node} {nodes : List Node} {s t w signs part : Chars} {x y : Char}

-----------------------------------------------------------------------------------------
-- Reading
-----------------------------------------------------------------------------------------

/-- The content of a heading without the number signs that close it. -/
def closeHeading (content : Chars) : Chars :=
  let body := Chars.dropEndWhile (· == '#') content
  if (body.getLast?.map Text.isInlineBlank).getD true then Chars.dropEndWhile Text.isInlineBlank body
  else content

/-- The level of a heading behind number signs, and its content. -/
def readHeading? (line : Chars) : Option (Nat × Chars) :=
  let level := (line.takeWhile (· == '#')).length
  let rest := line.drop level
  if 1 ≤ level && level ≤ 6 && (rest.head?.map Text.isInlineBlank).getD true then
    some (level, closeHeading (Chars.trim Text.isInlineBlank rest))
  else none

-----------------------------------------------------------------------------------------
-- Content on one line
-----------------------------------------------------------------------------------------

/-- A space for a line feed. -/
def spaced (x : Char) : Char :=
  if x == '\n' then ' ' else x

theorem isBlank_spaced (x : Char)
    : Text.isBlank (spaced x) = Text.isBlank x := by
  unfold spaced
  split
  · next feed =>
      rw [beq_iff_eq.mp feed]
      decide
  · rfl

theorem onOneLine_eq_map (s : Chars)
    : onOneLine s = (Chars.strip s).map spaced := by
  have replaced : Chars.replaceChar '\n' [' '] s = s.map spaced := by
    rw [Chars.replaceChar, ← List.flatMap_singleton' (s.map spaced), List.flatMap_map]
    congr 1
    funext x
    unfold spaced
    split <;> rfl
  rw [onOneLine, replaced]
  exact Chars.trim_map isBlank_spaced s

theorem mem_onOneLine (held : x ∈ onOneLine s)
    : x ∈ s ∨ x = ' ' := by
  rw [onOneLine_eq_map] at held
  obtain ⟨y, inside, rfl⟩ := List.mem_map.mp held
  unfold spaced
  split
  · exact .inr rfl
  · exact .inl ((List.dropWhile_sublist _).subset (Chars.mem_of_mem_dropEndWhile inside))

theorem not_inlineBlank (visible : Text.isBlank x = false)
    : Text.isInlineBlank x = false := by
  rw [← Bool.not_eq_true]
  intro blank
  rw [Spacing.isBlank_of_isInlineBlank blank] at visible
  cases visible

/-- A blank before number signs that lets them close a heading: a line feed becomes a space there. -/
def isGap (x : Char) : Bool :=
  Text.isInlineBlank x || x == '\n'

theorem isInlineBlank_spaced (x : Char)
    : Text.isInlineBlank (spaced x) = isGap x := by
  unfold spaced isGap
  split
  · next feed => simp [Text.isInlineBlank, feed]
  · next other => simp [other]

/-- A text that ends in number signs that would close a heading. -/
def EndsInMarks (s : Chars) : Prop :=
  let body := Chars.dropEndWhile (· == '#') s
  body ≠ s ∧ ∀ x, body.getLast? = some x → isGap x = true

theorem getLast?_spaced_visible (visible : ∀ x, s.getLast? = some x → Text.isBlank x = false)
    : ∀ x, (s.map spaced).getLast? = some x → Text.isInlineBlank x = false := by
  intro x last
  rw [List.getLast?_map] at last
  obtain ⟨y, ends, rfl⟩ := Option.map_eq_some_iff.mp last
  exact not_inlineBlank ((isBlank_spaced y).trans (visible y ends))

theorem closeHeading_eq_iff (visible : ∀ x, s.getLast? = some x → Text.isBlank x = false)
    : closeHeading (s.map spaced) = s.map spaced ↔ ¬ EndsInMarks s := by
  have sign : ∀ x, (spaced x == '#') = (x == '#') := by
    intro x
    unfold spaced
    split
    · next feed =>
        rw [beq_iff_eq.mp feed]
        decide
    · rfl
  unfold closeHeading EndsInMarks
  rw [Chars.dropEndWhile_map sign]
  have shorter := Chars.length_dropEndWhile_le (· == '#') s
  have whole := Chars.exists_dropEndWhile (· == '#') s
  generalize Chars.dropEndWhile (· == '#') s = body at *
  have edge : ((body.map spaced).getLast?.map Text.isInlineBlank).getD true = true
      ↔ ∀ x, body.getLast? = some x → isGap x = true := by
    rw [List.getLast?_map]
    cases body.getLast? <;> simp [isInlineBlank_spaced]
  by_cases unmarked : body = s
  · subst unmarked
    have kept := Chars.dropEndWhile_of_getLast? (getLast?_spaced_visible visible)
    simp [kept]
  · have fewer : body.length < s.length := by
      refine Nat.lt_of_le_of_ne shorter (fun same => unmarked ?_)
      obtain ⟨t, rfl, -⟩ := whole
      rw [List.length_append] at same
      have nothing : t = [] := List.length_eq_zero_iff.mp (by omega)
      rw [nothing, List.append_nil]
    simp only [edge, ne_eq, unmarked, not_false_eq_true, true_and]
    split
    · next gaps =>
        refine iff_of_false (fun same => ?_) (not_not.mpr gaps)
        have cut := Chars.length_dropEndWhile_le Text.isInlineBlank (body.map spaced)
        rw [same, List.length_map, List.length_map] at cut
        omega
    · next open_end => exact iff_of_true rfl open_end

-----------------------------------------------------------------------------------------
-- Reading what is written
-----------------------------------------------------------------------------------------

/-- A heading as it is written. -/
def headingLine (level : Nat) (content : Chars) : Chars :=
  let hashes := List.replicate level '#'
  if content.isEmpty then hashes else hashes ++ ' ' :: content

theorem readHeading?_headingLine {level : Nat} {content : Chars} (valid : 1 ≤ level ∧ level ≤ 6)
    (first : ∀ x, content.head? = some x → Text.isInlineBlank x = false)
    (last : ∀ x, content.getLast? = some x → Text.isInlineBlank x = false)
    : readHeading? (headingLine level content) = some (level, closeHeading content) := by
  have trimmed := Chars.trim_of_edges first last
  cases content with
  | nil =>
      have run : (List.replicate level '#').takeWhile (· == '#') = List.replicate level '#' := by
        simp
      simp [readHeading?, headingLine, run, valid, Chars.trim, Chars.dropEndWhile]
  | cons y content =>
      have ended : (' ' :: y :: content).head? ≠ some '#' := by simp
      have behind : Chars.trim Text.isInlineBlank (' ' :: y :: content) = y :: content := trimmed
      have blank : Text.isInlineBlank ' ' = true := by decide
      simp [readHeading?, headingLine, Chars.takeWhile_run ended, valid, behind, blank]

-----------------------------------------------------------------------------------------
-- The last run that shows
-----------------------------------------------------------------------------------------

theorem not_endsInMarks_of_getLast? (last : s.getLast? = some x) (other : x ≠ '#')
    : ¬ EndsInMarks s := by
  rintro ⟨marked, -⟩
  apply marked
  apply Chars.dropEndWhile_of_getLast?
  intro y ends
  rw [last] at ends
  cases ends
  simpa using other

/-- Number signs behind a text that ends in something else. -/
theorem endsInMarks_append (filled : signs ≠ []) (all_signs : ∀ y ∈ signs, y = '#')
    (other : ∀ x, w.getLast? = some x → x ≠ '#')
    : EndsInMarks (w ++ signs) ↔ ∀ x, w.getLast? = some x → isGap x = true := by
  have body : Chars.dropEndWhile (· == '#') (w ++ signs) = w := by
    rw [Chars.dropEndWhile_append (fun y held => beq_iff_eq.mpr (all_signs y held))]
    exact Chars.dropEndWhile_of_getLast? (fun x last => by simpa using other x last)
  have longer : w ≠ w ++ signs := by
    intro same
    exact filled (List.self_eq_append_right.mp same)
  unfold EndsInMarks
  rw [body]
  exact and_iff_right longer

/-- Number signs at the end of a line close it as a heading if nothing shows before them or a blank stands
there. -/
theorem endsInMarks_strip {blank : Chars} (filled : signs ≠ []) (all_signs : ∀ y ∈ signs, y = '#')
    (last : w.getLast? = some x) (other : x ≠ '#') (blanks : ∀ y ∈ blank, Text.isBlank y = true)
    : EndsInMarks (Chars.strip (w ++ (signs ++ blank)))
      ↔ (∀ y ∈ w, Text.isBlank y = true) ∨ isGap x = true := by
  have visible : ∀ y ∈ signs, Text.isBlank y = false := by
    intro y held
    rw [all_signs y held]
    decide
  have stripped : Chars.strip (w ++ (signs ++ blank)) = (w ++ signs).dropWhile Text.isBlank := by
    have kept : Chars.dropEndWhile Text.isBlank (w ++ signs) = w ++ signs := by
      apply Chars.dropEndWhile_of_getLast?
      intro y ends
      rw [List.getLast?_append_of_ne_nil _ filled] at ends
      exact visible y (List.mem_of_getLast? ends)
    rw [Chars.strip, Chars.trim, ← Chars.dropWhile_dropEndWhile, ← List.append_assoc,
      Chars.dropEndWhile_append blanks, kept]
  rw [stripped, List.dropWhile_append]
  by_cases faint : w.dropWhile Text.isBlank = []
  · obtain ⟨sign, more, rfl⟩ := List.exists_cons_of_ne_nil filled
    have started : (sign :: more).dropWhile Text.isBlank = sign :: more :=
      List.dropWhile_cons_of_neg (by simp [visible sign List.mem_cons_self])
    have alone := endsInMarks_append (w := []) filled all_signs (by simp)
    rw [faint, List.isEmpty_nil, if_pos rfl, started]
    exact iff_of_true (alone.mpr (by simp)) (.inl (List.dropWhile_eq_nil_iff.mp faint))
  · have ends : (w.dropWhile Text.isBlank).getLast? = some x := by
      rw [← last]
      conv_rhs => rw [← List.takeWhile_append_dropWhile (p := Text.isBlank) (l := w)]
      rw [List.getLast?_append_of_ne_nil _ faint]
    have shown : ¬ ∀ y ∈ w, Text.isBlank y = true := mt List.dropWhile_eq_nil_iff.mpr faint
    have solid : ∀ y, (w.dropWhile Text.isBlank).getLast? = some y → y ≠ '#' := by
      intro y same
      rw [ends] at same
      cases same
      exact other
    rw [if_neg (by simpa using faint), endsInMarks_append filled all_signs solid, ends]
    simp [shown]

/-- Whether the number signs at the end of a run of text would close the heading that ends with it, given
whether nothing shows before the run. The first sign of a run is escaped and closes nothing. -/
def closesInText (alone : Bool) (s : Chars) : Bool :=
  let kept := Chars.stripEnd s
  let body := Chars.dropEndWhile (· == '#') kept
  body != kept && !body.isEmpty &&
    ((alone && body.all Text.isBlank) || (body.getLast?.map isGap).getD false)

/-- Whether a line of nodes ends in number signs that would close it as a heading. Blank runs, ends of lines
and spans of nothing but blanks do not show. -/
def closesHeading (nodes : List Node) : Bool :=
  match nodes.reverse.dropWhile isFaint with
  | .text s _ :: ahead => closesInText (ahead.all isFaint) s
  | _ => false

theorem not_endsInMarks_strip {a b : Chars} (solid : SolidEnd t)
    (blank : ∀ y ∈ b, Text.isBlank y = true)
    : ¬ EndsInMarks (Chars.strip (a ++ (t ++ b))) := by
  obtain ⟨x, last, other⟩ := (solid.append blank).behind a
  exact not_endsInMarks_of_getLast? (Chars.getLast?_trim_of_dropEndWhile last) other

/-- The first number sign of a run is escaped. -/
theorem escapeText_signs {more : Chars} {inTable : Bool}
    (signs : ∀ y ∈ more, y = '#' ∨ Text.isBlank y = true)
    : escapeText inTable ('#' :: more) = '\\' :: '#' :: more := by
  have escape : mustEscape inTable none '#' more.head? = true := by simp [mustEscape]
  rw [escapeText, escapeFrom, if_pos escape, escapeFrom_signs signs]

/-- A run of text, cut before its last number signs and behind them. -/
structure SignsAt (s body signs tail : Chars) : Prop where
  whole : s = body ++ (signs ++ tail)
  sign : ∀ y ∈ signs, y = '#'
  blank : ∀ y ∈ tail, Text.isBlank y = true
  before : ∀ x, body.getLast? = some x → x ≠ '#'
  visible : ∀ x, (body ++ signs).getLast? = some x → Text.isBlank x = false

theorem exists_signsAt (s : Chars)
    : ∃ body signs tail, SignsAt s body signs tail := by
  obtain ⟨tail, whole, blank⟩ := Chars.exists_dropEndWhile Text.isBlank s
  obtain ⟨signs, split, sign_class⟩ := Chars.exists_dropEndWhile (· == '#') (Chars.stripEnd s)
  refine ⟨Chars.dropEndWhile (· == '#') (Chars.stripEnd s), signs, tail, ?_, ?_, blank, ?_, ?_⟩
  · rw [← List.append_assoc, ← split]
    exact whole
  · exact fun y held => beq_iff_eq.mp (sign_class y held)
  · intro x last
    simpa using Chars.getLast?_dropEndWhile last
  · rw [← split]
    exact fun x last => Chars.getLast?_dropEndWhile last

namespace SignsAt

variable {body tail a b : Chars} {inTable alone : Bool}

theorem closesInText_eq (ends : SignsAt s body signs tail)
    : closesInText alone s = (!signs.isEmpty && !body.isEmpty &&
        ((alone && body.all Text.isBlank) || (body.getLast?.map isGap).getD false)) := by
  have kept : Chars.stripEnd s = body ++ signs := by
    rw [ends.whole, ← List.append_assoc, Chars.stripEnd, Chars.dropEndWhile_append ends.blank]
    exact Chars.dropEndWhile_of_getLast? ends.visible
  have cut : Chars.dropEndWhile (· == '#') (body ++ signs) = body := by
    rw [Chars.dropEndWhile_append (fun y held => beq_iff_eq.mpr (ends.sign y held))]
    exact Chars.dropEndWhile_of_getLast? (fun x last => by simpa using ends.before x last)
  have marked : (body != body ++ signs) = !signs.isEmpty := by cases signs <;> simp
  simp only [closesInText, kept, cut, marked]

/-- What stands behind the start of a run is not escaped. -/
theorem behind (ends : SignsAt s body signs tail)
    : ∀ y ∈ signs ++ tail, y = '#' ∨ Text.isBlank y = true :=
  fun y held => (List.mem_append.mp held).imp (ends.sign y) (ends.blank y)

/-- A run without number signs at its end is written with a visible end. -/
theorem solidEnd (ends : SignsAt s body [] tail) (filled : body ≠ [])
    : SolidEnd (escapeText inTable s) := by
  obtain ⟨x, last⟩ : ∃ x, body.getLast? = some x := ⟨_, List.getLast?_eq_some_getLast filled⟩
  obtain ⟨escaped, written, same, -⟩ :=
    exists_escapeFrom_append inTable none ends.behind filled
  have visible := ends.visible x (by rwa [List.append_nil])
  rw [ends.whole, escapeText, written]
  exact (solidEnd_of_getLast? (same.trans last) visible (ends.before x last)).append ends.blank

/-- A run of text closes a heading by its last number signs, unless they are all that it is. -/
theorem endsInMarks_iff (ends : SignsAt s body signs tail) (filled : body ++ signs ≠ [])
    (blank : ∀ y ∈ b, Text.isBlank y = true)
    (before : alone = true ↔ ∀ y ∈ a, Text.isBlank y = true)
    : EndsInMarks (Chars.strip (a ++ (escapeText inTable s ++ b))) ↔ closesInText alone s = true := by
  have after : ∀ y ∈ tail ++ b, Text.isBlank y = true :=
    List.forall_mem_append.mpr ⟨ends.blank, blank⟩
  rw [ends.closesInText_eq]
  cases signs with
  | nil =>
      rw [List.append_nil] at filled
      exact iff_of_false (not_endsInMarks_strip (ends.solidEnd filled) blank) (by simp)
  | cons sign more =>
      cases body with
      | nil =>
          obtain rfl := ends.sign sign List.mem_cons_self
          have escaped : escapeText inTable s = '\\' :: '#' :: (more ++ tail) := by
            rw [ends.whole]
            exact escapeText_signs (fun y held => ends.behind y (List.mem_cons_of_mem _ held))
          have placed : a ++ (escapeText inTable s ++ b)
              = (a ++ ['\\']) ++ ('#' :: more ++ (tail ++ b)) := by
            rw [escaped]
            simp
          rw [placed, endsInMarks_strip (List.cons_ne_nil _ _) ends.sign (x := '\\') (by simp)
            (by decide) after]
          refine iff_of_false ?_ (by simp)
          rintro (faint | gap)
          · exact absurd (faint '\\' (by simp)) (by decide)
          · exact absurd gap (by decide)
      | cons y body =>
          obtain ⟨x, last⟩ : ∃ x, (y :: body).getLast? = some x := ⟨_, List.getLast?_cons⟩
          obtain ⟨escaped, written, same, faint⟩ :=
            exists_escapeFrom_append inTable none ends.behind (List.cons_ne_nil y body)
          have placed : a ++ (escapeText inTable s ++ b)
              = (a ++ escaped) ++ (sign :: more ++ (tail ++ b)) := by
            rw [ends.whole, escapeText, written]
            simp
          have ended : (a ++ escaped).getLast? = some x := by
            rw [List.getLast?_append, same, last]
            rfl
          rw [placed, endsInMarks_strip (List.cons_ne_nil _ _) ends.sign ended (ends.before x last)
            after, List.forall_mem_append, faint, ← before, last]
          simp

end SignsAt

-----------------------------------------------------------------------------------------
-- The last node that shows
-----------------------------------------------------------------------------------------

variable {ahead behind : List Node}

theorem exists_last_shown (nodes : List Node)
    : nodes.all isFaint = true
      ∨ ∃ ahead n behind,
          nodes = ahead ++ n :: behind ∧ isFaint n = false ∧ behind.all isFaint = true := by
  induction nodes with
  | nil => exact .inl rfl
  | cons n nodes ih =>
      rcases ih with faint | ⟨ahead, last, behind, rfl, shown, faint⟩
      · cases first : isFaint n with
        | true => exact .inl (by rw [List.all_cons, first, faint]; rfl)
        | false => exact .inr ⟨[], n, nodes, rfl, first, faint⟩
      · exact .inr ⟨n :: ahead, last, behind, rfl, shown, faint⟩

theorem closesHeading_of_faint (faint : nodes.all isFaint = true)
    : closesHeading nodes = false := by
  have nothing : nodes.reverse.dropWhile isFaint = [] := by
    rw [List.dropWhile_eq_nil_iff]
    intro n held
    exact List.all_eq_true.mp faint n (List.mem_reverse.mp held)
  rw [closesHeading, nothing]

/-- Only the last node that shows can close a heading. -/
theorem dropWhile_reverse_faint (shown : isFaint n = false) (faint : behind.all isFaint = true)
    : (ahead ++ n :: behind).reverse.dropWhile isFaint = n :: ahead.reverse := by
  have back : ∀ n ∈ behind.reverse, isFaint n = true :=
    fun n held => List.all_eq_true.mp faint n (List.mem_reverse.mp held)
  rw [List.reverse_append, List.reverse_cons, List.append_assoc, List.dropWhile_append_of_pos back]
  exact List.dropWhile_cons_of_neg (by simp [shown])

theorem exists_parts {parts : List Chars}
    (ends : List.Forall₂ (Ends c) (ahead ++ n :: behind) parts)
    : ∃ before part after,
        parts = before ++ part :: after
        ∧ List.Forall₂ (Ends c) ahead before
        ∧ Ends c n part
        ∧ List.Forall₂ (Ends c) behind after := by
  induction ahead generalizing parts with
  | nil =>
      obtain ⟨part, after, here, later, rfl⟩ := List.forall₂_cons_left_iff.mp ends
      exact ⟨[], part, after, rfl, .nil, here, later⟩
  | cons first ahead ih =>
      obtain ⟨head, rest, here, later, rfl⟩ := List.forall₂_cons_left_iff.mp ends
      obtain ⟨before, part, after, rfl, ahead, at_node, behind⟩ := ih later
      exact ⟨head :: before, part, after, rfl, .cons here ahead, at_node, behind⟩

/-- A line ends in number signs that would close it exactly if its nodes do. -/
theorem endsInMarks_line {parts : List Chars} (ends : List.Forall₂ (Ends c) nodes parts)
    : EndsInMarks (Chars.strip parts.flatten) ↔ closesHeading nodes = true := by
  rcases exists_last_shown nodes with faint | ⟨ahead, n, behind, rfl, shown, faint⟩
  · have empty : Chars.strip parts.flatten = [] := Chars.trim_eq_nil.mpr ((faint_iff ends).mp faint)
    rw [empty, closesHeading_of_faint faint]
    exact iff_of_false (fun marks => marks.1 rfl) Bool.false_ne_true
  · obtain ⟨before, part, after, rfl, leading, here, trailing⟩ := exists_parts ends
    have blank := (faint_iff trailing).mp faint
    rw [List.flatten_append, List.flatten_cons, closesHeading, dropWhile_reverse_faint shown faint]
    cases here with
    | @text s =>
        obtain ⟨body, signs, tail, cut⟩ := exists_signsAt s
        have filled : body ++ signs ≠ [] := by
          intro empty
          have all_blank : s.all Text.isBlank = true := by
            rw [cut.whole, ← List.append_assoc, empty]
            exact List.all_eq_true.mpr cut.blank
          rw [isFaint, all_blank] at shown
          cases shown
        refine cut.endsInMarks_iff filled blank ?_
        rw [List.all_reverse]
        exact faint_iff leading
    | bare same bare => rw [same, bare] at shown; cases shown
    | lineBreak => cases shown
    | solid other _ _ solid =>
        refine iff_of_false (not_endsInMarks_strip solid blank) ?_
        split
        · next s m _ same => exact absurd (List.cons.inj same).1 (other s m)
        · exact Bool.false_ne_true

-----------------------------------------------------------------------------------------
-- Headings
-----------------------------------------------------------------------------------------

theorem mem_headingLine {level : Nat} {content : Chars} (held : x ∈ headingLine level content)
    : x ∈ content ∨ x = '#' ∨ x = ' ' := by
  unfold headingLine at held
  split at held
  · exact .inr (.inl (List.eq_of_mem_replicate held))
  · rcases List.mem_append.mp held with sign | behind
    · exact .inr (.inl (List.eq_of_mem_replicate sign))
    · rcases List.mem_cons.mp behind with rfl | inside
      · exact .inr (.inr rfl)
      · exact .inl inside

/-- What is read of a heading is its content without the number signs that close it. -/
theorem readHeading?_onOneLine (level : HeadingLevel) (s : Chars)
    : readHeading? (headingLine level.1 (onOneLine s)) = some (level.1, closeHeading (onOneLine s)) :=
  readHeading?_headingLine level.2
    (fun _ first => not_inlineBlank (Chars.head?_trim first))
    (fun _ last => not_inlineBlank (Chars.getLast?_trim last))

/-- A heading of nodes that may stand in a line is always written, on one line unless the nodes hold carriage
returns, and it is read back with its level and its content exactly if no run of text at its end closes it. -/
theorem heading_reads_back_iff (level : HeadingLevel) (m : Mapping) (escapes : c.options.escape = true)
    (inline : ∀ n ∈ nodes, CellNode n)
    : ∃ text line,
        writeLine c nodes = .ok text
        ∧ writePiece c (.flow (.heading level) nodes m) = .ok (.plain line)
        ∧ '\n' ∉ line
        ∧ (Returnless (heldTextsOf nodes) → '\r' ∉ line)
        ∧ (readHeading? line = some (level.1, onOneLine text) ↔ closesHeading nodes = false) := by
  obtain ⟨pieces, listed, ends⟩ := exists_ends_line (fun n held =>
    ⟨after_cellNode (inline n held) c, (inline n held).exists_ends escapes⟩)
  have flat : assemble pieces = (partsFrom none pieces).flatten := assembleFrom_eq_flatten none pieces
  refine ⟨assemble pieces, headingLine level.1 (onOneLine (assemble pieces)),
    bind_eq_ok.mpr ⟨pieces, listed, rfl⟩, bind_eq_ok.mpr ⟨pieces, listed, rfl⟩, ?_, ?_, ?_⟩
  · intro feed
    rcases mem_headingLine feed with inside | same | same
    · exact not_mem_onOneLine _ inside
    · cases same
    · cases same
  · intro free returned
    rcases mem_headingLine returned with inside | same | same
    · have line := return_not_mem_line
        (fun n held c piece made => (inline n held).return_not_mem (free.node held) made) listed none
      rw [← flat] at line
      exact line ((mem_onOneLine inside).resolve_right (by decide))
    · cases same
    · cases same
  · have closed := closeHeading_eq_iff (s := Chars.strip (assemble pieces))
      (fun x last => Chars.getLast?_trim last)
    rw [← onOneLine_eq_map, flat, endsInMarks_line (ends none), Bool.not_eq_true, ← flat] at closed
    rw [readHeading?_onOneLine, Option.some.injEq, Prod.mk.injEq, and_iff_right rfl, closed]

/-- Number signs inside a heading and behind a letter at its end are kept. -/
theorem sharp_heading_reads_back
    : let c := Context.root {}
      let level : HeadingLevel := ⟨2, by decide⟩
      let nodes : List Node := [.text "# in C#".toList [], .inert (.lineBreak true) []]
      c.options.escape = true
      ∧ (∀ n ∈ nodes, CellNode n)
      ∧ Returnless (heldTextsOf nodes)
      ∧ closesHeading nodes = false
      ∧ writePiece c (.flow (.heading level) nodes []) = .ok (.plain "## \\# in C#".toList)
      ∧ '\r' ∉ "## \\# in C#".toList
      ∧ readHeading? "## \\# in C#".toList = some (2, "\\# in C#".toList) := by
  intro c level nodes
  have inline : ∀ n ∈ nodes, CellNode n := by simpa [nodes] using ⟨.text, .lineBreak⟩
  have free : Returnless (heldTextsOf nodes) := by
    simp [Returnless, nodes, heldTextsOf, heldTexts, heldTextsOfLeaf]
  have shown : closesHeading nodes = false := by decide +kernel
  obtain ⟨text, line, written, heading, -, single, read⟩ :=
    heading_reads_back_iff (c := c) level [] rfl inline
  have text_known : writeLine c nodes = .ok "\\# in C#\n".toList := ok_of_toOption (by decide +kernel)
  have line_known : writePiece c (.flow (.heading level) nodes [])
      = .ok (.plain "## \\# in C#".toList) := ok_of_toOption (by decide +kernel)
  obtain rfl := Except.ok.inj (text_known.symm.trans written)
  obtain rfl := Piece.plain.inj (Except.ok.inj (line_known.symm.trans heading))
  exact ⟨rfl, inline, free, shown, line_known, single free, read.mpr shown⟩

/-- A number sign behind a space at the end of a heading is taken for a mark that closes it. -/
theorem last_sign_closes_heading
    : let c := Context.root {}
      let nodes : List Node := [.text "a #".toList []]
      writePiece c (.flow (.heading ⟨1, by decide⟩) nodes []) = .ok (.plain "# a #".toList)
      ∧ writeLine c nodes = .ok "a #".toList
      ∧ readHeading? "# a #".toList = some (1, ['a'])
      ∧ readHeading? "# a #".toList ≠ some (1, onOneLine "a #".toList) := by
  refine ⟨ok_of_toOption (by decide +kernel), ok_of_toOption (by decide +kernel), ?_, ?_⟩
  · decide +kernel
  · decide +kernel

end MixedScript.Markdown
