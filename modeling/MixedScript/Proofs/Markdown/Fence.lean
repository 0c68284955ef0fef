import MixedScript.Markdown.Outline
import MixedScript.Markdown.Writer
import MixedScript.Proofs.Markdown.LineStart
import MixedScript.Proofs.Result
import MixedScript.Proofs.Text.Lines
import MixedScript.Proofs.Text.Runs

/-! Fenced code. The fence is longer than any run of its character in the code, so no line of the code closes
the block and all of it is read back. Only the info string can get in the way: it follows the opening
fence on its line, where backticks bar some info strings and tildes run into others. -/

namespace MixedScript.Markdown

variable {mark : Char} {count : Nat} {cs line info content later : Chars}

-----------------------------------------------------------------------------------------
-- Lines of a source
-----------------------------------------------------------------------------------------

theorem firstLine_append (single : '\n' ∉ line) (later : Chars)
    : firstLine (line ++ '\n' :: later) = line := by
  have inside : ∀ c ∈ line, (c != '\n') = true :=
    fun c held => bne_iff_ne.mpr (fun feed => single (feed ▸ held))
  rw [firstLine, List.takeWhile_append_of_pos inside]
  simp

theorem afterLine_append (single : '\n' ∉ line) (later : Chars)
    : afterLine (line ++ '\n' :: later) = later := by
  have inside : ∀ c ∈ line, (c != '\n') = true :=
    fun c held => bne_iff_ne.mpr (fun feed => single (feed ▸ held))
  rw [afterLine, List.dropWhile_append_of_pos inside]
  simp

theorem firstLineWithEnd_append (single : '\n' ∉ line) (later : Chars)
    : firstLineWithEnd (line ++ '\n' :: later) = line ++ ['\n'] := by
  rw [firstLineWithEnd, afterLine_append single, List.append_cons, List.length_append,
    Nat.add_sub_cancel, List.take_left]

/-- The lines of a text that ends its last line. -/
theorem exists_lines_endLine (content : Chars)
    : ∃ body : List Chars,
        endLine content = body.flatMap (· ++ ['\n'])
        ∧ ∀ line ∈ body, '\n' ∉ line ∧ line <:+: content := by
  cases content using List.reverseRecOn with
  | nil => exact ⟨[], rfl, by simp⟩
  | append_singleton start last =>
      obtain ⟨kept, ended, inside⟩
          : ∃ kept, endLine (start ++ [last]) = kept ++ ['\n'] ∧ kept <:+: start ++ [last] := by
        by_cases feed : last = '\n'
        · exact ⟨start, by simp [endLine, feed], (List.prefix_append ..).isInfix⟩
        · exact ⟨start ++ [last], by simp [endLine, feed], List.infix_refl _⟩
      obtain ⟨before, line, split⟩ :=
        (List.eq_nil_or_concat' (Chars.lines kept)).resolve_left (Chars.lines_ne_nil kept)
      refine ⟨Chars.lines kept, ?_, fun line held => ?_⟩
      · have joined := Chars.join_lines kept
        rw [split, Chars.join_concat] at joined
        rw [ended, split, ← joined]
        simp
      · exact ⟨Chars.not_mem_of_mem_splitAt held, (Chars.infix_of_mem_lines held).trans inside⟩

theorem length_le_flatMap (body : List Chars)
    : body.length ≤ (body.flatMap (· ++ ['\n'])).length := by
  induction body with
  | nil => exact Nat.le_refl 0
  | cons line body ih =>
      rw [List.flatMap_cons, List.length_append, List.length_append, Nat.add_comm, List.length_cons]
      exact Nat.add_le_add ih (Nat.le_add_left 1 _)

theorem mapLines_flush (cs : Chars)
    : mapLines (dropIndent 0) cs = cs := by
  have kept : ∀ line ∈ Chars.lines cs, dropIndent 0 line = line :=
    fun line _ => by simp [dropIndent]
  rw [mapLines, List.map_congr_left kept, List.map_id', Chars.join_lines]

-----------------------------------------------------------------------------------------
-- The closing fence
-----------------------------------------------------------------------------------------

/-- A line that closes a block of code behind a fence of so many marks: at most three spaces, a run of
the mark that is no shorter, and nothing but blanks behind it. -/
def ClosesFence (mark : Char) (count : Nat) (line : Chars) : Prop :=
  ∃ indent n blanks,
    line = List.replicate indent ' ' ++ (List.replicate n mark ++ blanks)
    ∧ indent ≤ 3
    ∧ count ≤ n
    ∧ isRestBlank blanks = true

/-- What the reader looks for at the end of a block of code. -/
def looksClosing (mark : Char) (count : Nat) (line : Chars) : Bool :=
  let run := (line.drop (indentation line)).takeWhile (· == mark)
  indentation line ≤ 3 && count ≤ run.length
    && (line.drop (indentation line + run.length)).all Text.isInlineBlank

theorem exists_run (mark : Char) (cs : Chars)
    : ∃ rest,
        cs = List.replicate (cs.takeWhile (· == mark)).length mark ++ rest
        ∧ cs.drop (cs.takeWhile (· == mark)).length = rest := by
  refine ⟨_, ?_, rfl⟩
  have run : cs.takeWhile (· == mark) = List.replicate (cs.takeWhile (· == mark)).length mark :=
    List.eq_replicate_of_mem (fun c held => by simpa using List.mem_takeWhile_imp held)
  rw [← run]
  exact (List.prefix_iff_eq_append.mp (List.takeWhile_prefix _)).symm

theorem looksClosing_iff (solid : Text.isInlineBlank mark = false) (some_mark : 0 < count)
    : looksClosing mark count line = true ↔ ClosesFence mark count line := by
  constructor
  · intro looks
    simp only [looksClosing, Bool.and_eq_true, decide_eq_true_eq] at looks
    obtain ⟨⟨shallow, long⟩, blank⟩ := looks
    obtain ⟨body, split, dropped⟩ := exists_run ' ' line
    rw [← List.drop_drop, indentation, dropped] at blank
    rw [indentation, dropped] at long
    obtain ⟨blanks, shape, behind⟩ := exists_run mark body
    rw [behind] at blank
    rw [shape] at split
    exact ⟨_, _, blanks, split, shallow, long, blank⟩
  · rintro ⟨indent, n, blanks, rfl, shallow, long, blank⟩
    obtain ⟨n, rfl⟩ := Nat.exists_eq_succ_of_ne_zero (some_mark.trans_le long).ne'
    have noSpace : (List.replicate (n + 1) mark ++ blanks).head? ≠ some ' ' := by
      rintro same
      obtain rfl : mark = ' ' := by simpa [List.replicate_succ] using same
      cases solid
    have noMark : blanks.head? ≠ some mark := by
      intro same
      rw [List.all_eq_true.mp blank mark (List.mem_of_mem_head? same)] at solid
      cases solid
    have indented : indentation
        (List.replicate indent ' ' ++ (List.replicate (n + 1) mark ++ blanks)) = indent := by
      rw [indentation, Chars.takeWhile_run noSpace, List.length_replicate]
    have behind : (List.replicate indent ' ' ++ (List.replicate (n + 1) mark ++ blanks)).drop indent
        = List.replicate (n + 1) mark ++ blanks := List.drop_left' (by simp)
    have rest : (List.replicate (n + 1) mark ++ blanks).drop (n + 1) = blanks :=
      List.drop_left' (by simp)
    simp only [looksClosing, indented, behind, ← List.drop_drop, Chars.takeWhile_run noMark,
      List.length_replicate, rest, Bool.and_eq_true, decide_eq_true_eq]
    exact ⟨⟨shallow, long⟩, blank⟩

/-- A fence closes what it has opened. -/
theorem closesFence_fence (mark : Char) (count : Nat)
    : ClosesFence mark count (List.replicate count mark) :=
  ⟨0, count, [], by simp, Nat.zero_le 3, Nat.le_refl count, rfl⟩

/-- No line of a text closes a fence that is longer than all its runs. -/
theorem not_closesFence_of_infix (inside : line <:+: content)
    (long : Chars.longestRun mark content < count)
    : ¬ ClosesFence mark count line := by
  rintro ⟨indent, n, blanks, rfl, -, reaches, -⟩
  have run : List.replicate n mark <:+: content :=
    (List.prefix_append _ blanks).isInfix.trans ((List.suffix_append _ _).isInfix.trans inside)
  exact absurd (reaches.trans (Chars.le_longestRun run)) (by omega)

theorem fencedLines_close (fuel : Nat) (single : '\n' ∉ line)
    (closes : looksClosing mark count line = true) (later : Chars)
    : Outline.fencedLines mark count (fuel + 1) (line ++ '\n' :: later) = ([], later) := by
  have filled : (line ++ '\n' :: later).isEmpty = false := by simp
  rw [Outline.fencedLines]
  simp only [filled, firstLine_append single, afterLine_append single]
  rw [looksClosing] at closes
  simp [closes]

theorem fencedLines_line (fuel : Nat) (single : '\n' ∉ line)
    (stays : looksClosing mark count line = false) (later : Chars)
    : Outline.fencedLines mark count (fuel + 1) (line ++ '\n' :: later)
      = (line ++ '\n' :: (Outline.fencedLines mark count fuel later).1,
        (Outline.fencedLines mark count fuel later).2) := by
  have filled : (line ++ '\n' :: later).isEmpty = false := by simp
  rw [Outline.fencedLines]
  simp only [filled, firstLine_append single, afterLine_append single,
    firstLineWithEnd_append single]
  rw [looksClosing] at stays
  simp [stays]

/-- Code is read up to the first line that closes it. -/
theorem fencedLines_body {body : List Chars} {closing : Chars} {fuel : Nat}
    (solid : Text.isInlineBlank mark = false) (some_mark : 0 < count)
    (stays : ∀ line ∈ body, '\n' ∉ line ∧ ¬ ClosesFence mark count line)
    (single : '\n' ∉ closing) (closes : ClosesFence mark count closing) (enough : body.length < fuel)
    (later : Chars)
    : Outline.fencedLines mark count fuel (body.flatMap (· ++ ['\n']) ++ (closing ++ '\n' :: later))
      = (body.flatMap (· ++ ['\n']), later) := by
  obtain ⟨fuel, rfl⟩ := Nat.exists_eq_succ_of_ne_zero (Nat.zero_lt_of_lt enough).ne'
  induction body generalizing fuel with
  | nil => exact fencedLines_close fuel single ((looksClosing_iff solid some_mark).mpr closes) later
  | cons line body ih =>
      obtain ⟨⟨lineSingle, here⟩, behind⟩ := List.forall_mem_cons.mp stays
      obtain ⟨fuel, rfl⟩ : ∃ more, fuel = more + 1 :=
        Nat.exists_eq_succ_of_ne_zero (by simp at enough; omega)
      have stayed : looksClosing mark count line = false := by
        rwa [← looksClosing_iff solid some_mark, Bool.not_eq_true] at here
      have read := ih behind fuel (by simpa using enough)
      rw [List.flatMap_cons, List.append_assoc, List.append_assoc, List.singleton_append,
        fencedLines_line _ lineSingle stayed, read]
      simp

-----------------------------------------------------------------------------------------
-- The opening fence
-----------------------------------------------------------------------------------------

theorem fence_solid (m : FenceMark)
    : Text.isInlineBlank m.char = false := by
  cases m <;> decide

theorem fence_single (m : FenceMark) (count : Nat)
    : '\n' ∉ List.replicate count m.char := by
  have other : '\n' ≠ m.char := by cases m <;> decide
  simp [List.mem_replicate, other]

/-- A fence takes the marks at the start of the info string along. -/
theorem fence?_run (m : FenceMark) (long : 3 ≤ count) (single : '\n' ∉ info) (later : Chars)
    : Opening.fence? 3 (List.replicate count m.char ++ info ++ '\n' :: later)
      = some (.fence 0 m.char (count + (info.takeWhile (· == m.char)).length)
          (dropInlineBlank (info.drop (info.takeWhile (· == m.char)).length))) := by
  have noFeed : '\n' ∉ List.replicate count m.char ++ info :=
    List.not_mem_append (fence_single m count) single
  have filled : (List.replicate count m.char ++ info).head? = some m.char := by
    obtain ⟨more, rfl⟩ := Nat.exists_eq_add_of_le' long
    rfl
  have flush : ∀ rest, indentation (List.replicate count m.char ++ rest) = 0 := by
    intro rest
    obtain ⟨more, rfl⟩ := Nat.exists_eq_add_of_le' long
    have noSpace : m.char ≠ ' ' := by cases m <;> decide
    simp [List.replicate_succ, indentation, noSpace]
  have run : (List.replicate count m.char ++ info).takeWhile (· == m.char)
      = List.replicate count m.char ++ info.takeWhile (· == m.char) :=
    List.takeWhile_append_of_pos (by simp)
  have behind : (List.replicate count m.char ++ info).drop
        (count + (info.takeWhile (· == m.char)).length)
      = info.drop (info.takeWhile (· == m.char)).length := by
    rw [← List.drop_drop, List.drop_left' (by simp)]
  have fences : m.char = '\x60' ∨ m.char = '~' := by cases m <;> decide
  have enough : 3 ≤ count + (info.takeWhile (· == m.char)).length := long.trans (Nat.le_add_right ..)
  rw [Opening.fence?, firstLine_append noFeed]
  simp [withinIndent?, flush, filled, run, behind, fences, enough]

/-- A text that starts with a block of fenced code. Its first line opens one with an info string, and
the reader goes on behind the line that closes it. Escapes in the info string are undone last. -/
def StartsFenced (text info code later : Chars) : Prop :=
  ∃ indent mark count,
    Opening.fence? 3 text = some (.fence indent mark count info)
    ∧ ∀ o : Outline, o.rest = text →
        o.fence indent mark count info
          = some (o.push (.leaf .blockCode code
              { info := if info.isEmpty then none else some (Chars.strip (unescape info)) }) later)

/-- An info string that may follow a fence: one of backticks only where it holds none, one of tildes
only where it starts with none. -/
def Follows : FenceMark → Chars → Prop
  | .backtick, info => '\x60' ∉ info
  | .tilde, info => info.head? ≠ some '~'

instance : (m : FenceMark) → (info : Chars) → Decidable (Follows m info)
  | .backtick, info => inferInstanceAs (Decidable ('\x60' ∉ info))
  | .tilde, info => inferInstanceAs (Decidable (info.head? ≠ some '~'))

theorem dropInlineBlank_of_strip (bare : Chars.strip info = info)
    : dropInlineBlank info = info := by
  cases info with
  | nil => rfl
  | cons b rest =>
      have solid : Text.isBlank b = false := by
        by_contra blank
        have shorter : (Chars.strip (b :: rest)).length ≤ rest.length := by
          rw [Chars.strip, Chars.trim, List.dropWhile_cons_of_pos (by simpa using blank),
            Chars.dropEndWhile_eq_rdropWhile]
          exact (List.rdropWhile_prefix _ _).length_le.trans (List.dropWhile_suffix _).length_le
        rw [bare] at shorter
        exact absurd shorter (by simp)
      have other : b ≠ ' ' ∧ b ≠ '\t' := by
        constructor <;> rintro rfl <;> revert solid <;> decide
      simp [dropInlineBlank, Text.isInlineBlank, other]

/-- Only an info string that may follow the fence is read back behind it. -/
theorem Follows.of_startsFenced {m : FenceMark} {code text : Chars} (long : 3 ≤ count)
    (single : '\n' ∉ info)
    (read : StartsFenced (List.replicate count m.char ++ info ++ '\n' :: text) info code later)
    : Follows m info := by
  obtain ⟨indent, mark, fenceCount, opens, closes⟩ := read
  rw [fence?_run m long single] at opens
  obtain ⟨rfl, rfl, rfl, same⟩ := Opening.fence.inj (Option.some.inj opens)
  cases m with
  | backtick =>
      intro held
      have barred := closes { rest := _ } rfl
      simp [Outline.fence, FenceMark.char, held] at barred
  | tilde =>
      intro starts
      obtain ⟨rest, rfl⟩ := List.head?_eq_some_iff.mp starts
      -- The fence has grown by a tilde, so that less than the info string is left behind it.
      have shorter := congrArg List.length same
      have blanks := (List.dropWhile_suffix Text.isInlineBlank
        (l := rest.drop (rest.takeWhile (· == '~')).length)).length_le
      simp [dropInlineBlank, FenceMark.char] at shorter blanks
      omega

theorem startsFenced_of_follows {m : FenceMark} {body : List Chars} (long : 3 ≤ count)
    (single : '\n' ∉ info) (bare : Chars.strip info = info) (follows : Follows m info)
    (stays : ∀ line ∈ body, '\n' ∉ line ∧ ¬ ClosesFence m.char count line) (later : Chars)
    : StartsFenced
        (List.replicate count m.char ++ info ++ '\n' :: (body.flatMap (· ++ ['\n'])
          ++ (List.replicate count m.char ++ '\n' :: later)))
        info (body.flatMap (· ++ ['\n'])) later := by
  have apart : info.takeWhile (· == m.char) = [] := by
    cases info with
    | nil => rfl
    | cons first rest =>
        have other : first ≠ m.char := by
          rintro rfl
          cases m with
          | backtick => exact follows List.mem_cons_self
          | tilde => exact follows rfl
        simp [other]
  refine ⟨0, m.char, count, ?_, ?_⟩
  · rw [fence?_run m long single, apart]
    simp [dropInlineBlank_of_strip bare]
  · intro o text
    have barred : (m.char == '\x60' && info.contains '\x60') = false := by
      cases m with
      | backtick => simpa [FenceMark.char, Follows] using follows
      | tilde => rfl
    have behind : afterLine o.rest = body.flatMap (· ++ ['\n'])
        ++ (List.replicate count m.char ++ '\n' :: later) := by
      rw [text, afterLine_append (List.not_mem_append (fence_single m count) single)]
    have enough : body.length < o.rest.length := by
      have lines := length_le_flatMap body
      rw [text]
      simp only [List.length_append, List.length_cons]
      omega
    have read := fencedLines_body (fence_solid m) (by omega) stays (fence_single m count)
      (closesFence_fence m.char count) enough later
    simp only [Outline.fence, barred, behind, read, mapLines_flush, Bool.false_eq_true, if_false]

-----------------------------------------------------------------------------------------
-- Blocks of code
-----------------------------------------------------------------------------------------

theorem lines_between_fences {fence : Chars} {body : List Chars} (fenceSingle : '\n' ∉ fence)
    (single : '\n' ∉ info) (lines : ∀ line ∈ body, '\n' ∉ line)
    : Chars.lines (fence ++ info ++ '\n' :: (body.flatMap (· ++ ['\n']) ++ fence))
      = (fence ++ info) :: (body ++ [fence]) := by
  have joined : Chars.join ['\n'] (((fence ++ info) :: body) ++ [fence])
      = fence ++ info ++ '\n' :: (body.flatMap (· ++ ['\n']) ++ fence) := by
    rw [Chars.join_concat]
    simp
  rw [← joined]
  refine Chars.lines_join ?_ (by simp)
  simp only [List.mem_append, List.mem_cons, List.not_mem_nil, or_false]
  rintro line ((rfl | held) | rfl)
  · exact List.not_mem_append fenceSingle single
  · exact lines line held
  · exact fenceSingle

/-- A block of code that is not written by indentation becomes a line with a fence and the info string,
the lines of the code, none of which closes the block, and the fence again, which does. Before whatever
follows, the whole is read back exactly if the info string may follow the fence. -/
theorem fenced_code_reads_back_iff {options : WriterOptions} {m : Mapping} {content : Chars}
    {language : Option Chars} (fenced : hasMark m "indented" = false)
    (single : '\n' ∉ infoString m language)
    (bare : Chars.strip (infoString m language) = infoString m language)
    : ∃ text fence body,
        inertText options m (.codeBlock content language) = .ok text
        ∧ Chars.lines text = (fence ++ infoString m language) :: (body ++ [fence])
        ∧ endLine content = body.flatMap (· ++ ['\n'])
        ∧ (∃ count, 3 ≤ count ∧ options.fenceMin ≤ count
            ∧ fence = List.replicate count options.fence.char
            ∧ (∀ line ∈ body, ¬ ClosesFence options.fence.char count line)
            ∧ ClosesFence options.fence.char count fence)
        ∧ ((∀ later,
              StartsFenced (text ++ '\n' :: later) (infoString m language) (endLine content) later)
            ↔ Follows options.fence (infoString m language)) := by
  have written : inertText options m (.codeBlock content language)
      = .ok (fencedCode options.fence options.fenceMin (infoString m language) content) := by
    rw [inertText, fenced]
    rfl
  generalize infoString m language = info at *
  let count := max options.fenceMin (Chars.longestRun options.fence.char content + 1)
  let fence := List.replicate count options.fence.char
  have long : 3 ≤ count := options.fenceMin_le.trans (Nat.le_max_left _ _)
  obtain ⟨body, ended, lines⟩ := exists_lines_endLine content
  have stays : ∀ line ∈ body, '\n' ∉ line ∧ ¬ ClosesFence options.fence.char count line :=
    fun line held => ⟨(lines line held).1,
      not_closesFence_of_infix (lines line held).2 (Nat.le_max_right _ _)⟩
  have text : fencedCode options.fence options.fenceMin info content
      = fence ++ info ++ '\n' :: (body.flatMap (· ++ ['\n']) ++ fence) := by
    rw [← ended]
    exact List.append_assoc ..
  have followed : ∀ later, fencedCode options.fence options.fenceMin info content ++ '\n' :: later
      = fence ++ info ++ '\n' :: (body.flatMap (· ++ ['\n']) ++ (fence ++ '\n' :: later)) := by
    intro later
    simp only [text, List.append_assoc, List.cons_append]
  refine ⟨_, fence, body, written, ?_, ended, ⟨count, long, Nat.le_max_left _ _, rfl,
    fun line held => (stays line held).2, closesFence_fence _ count⟩, ?_, ?_⟩
  · rw [text]
    exact lines_between_fences (fence_single _ count) single (fun line held => (lines line held).1)
  · intro read
    have here := read []
    rw [followed] at here
    exact .of_startsFenced long single here
  · intro follows later
    rw [followed, ended]
    exact startsFenced_of_follows long single bare follows stays later

/-- Between tildes, backticks in the info string and runs of tildes in the code are read back. -/
theorem tildes_between_tildes_read_back
    : let options : WriterOptions := { fence := .tilde }
      let m : Mapping := [(.str "info_string", .str "a \x60b")]
      let content := " ~~~~\n~~~\t\nx".toList
      let text := "~~~~~a \x60b\n ~~~~\n~~~\t\nx\n~~~~~".toList
      hasMark m "indented" = false
      ∧ '\n' ∉ infoString m none
      ∧ Chars.strip (infoString m none) = infoString m none
      ∧ inertText options m (.codeBlock content none) = .ok text
      ∧ ∀ later, StartsFenced (text ++ '\n' :: later) "a \x60b".toList (content ++ ['\n']) later := by
  intro options m content text
  have fenced : hasMark m "indented" = false := by decide
  have single : '\n' ∉ infoString m none := by decide
  have bare : Chars.strip (infoString m none) = infoString m none := by decide +kernel
  have written : inertText options m (.codeBlock content none) = .ok text :=
    ok_of_toOption (by decide +kernel)
  obtain ⟨_, _, _, same, -, -, -, read⟩ :=
    @fenced_code_reads_back_iff options m content none fenced single bare
  obtain rfl := Except.ok.inj (written.symm.trans same)
  exact ⟨fenced, single, bare, written, read.mpr (by decide)⟩

/-- Behind a fence of backticks, an info string with a backtick opens no block. -/
theorem backtick_in_info_opens_nothing
    : ¬ ∀ (options : WriterOptions) (m : Mapping) (content : Chars) (language : Option Chars),
        hasMark m "indented" = false
          → '\n' ∉ infoString m language
          → Chars.strip (infoString m language) = infoString m language
          → ∃ text,
              inertText options m (.codeBlock content language) = .ok text
              ∧ ∀ later,
                  StartsFenced (text ++ '\n' :: later) (infoString m language) (endLine content)
                    later := by
  intro reads
  let m : Mapping := [(.str "info_string", .str "a\x60b")]
  obtain ⟨text, written, read⟩ := reads {} m ['c'] none (by decide) (by decide) (by decide +kernel)
  have shape : text = List.replicate 3 FenceMark.backtick.char ++ infoString m none
      ++ '\n' :: "c\n\x60\x60\x60".toList :=
    Except.ok.inj (written.symm.trans (ok_of_toOption (by decide +kernel)))
  have here := read []
  rw [shape, List.append_assoc _ _ ['\n'], List.cons_append] at here
  exact absurd (Follows.of_startsFenced (Nat.le_refl 3) (by decide) here) (by decide)

end MixedScript.Markdown
