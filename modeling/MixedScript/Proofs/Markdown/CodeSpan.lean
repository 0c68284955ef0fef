import MixedScript.Markdown.Phrase.Atom
import MixedScript.Markdown.Writer
import MixedScript.Proofs.Result
import MixedScript.Proofs.Text.Runs
import MixedScript.Proofs.Text.Trim

/-! Code in a line. Its backticks are more than any run of them in the code has, and a space keeps a backtick at
either edge of the code apart from them, so that they are closed where the code ends. -/

namespace MixedScript.Markdown

variable {count run : Nat} {s inner later : Chars}

/-- The code that stands between backticks: one space goes at either end where both ends have one and
something visible stands between them. -/
def spanContent (inner : Chars) : Chars :=
  if inner.head? == some ' ' && inner.getLast? == some ' ' && !(Chars.strip inner).isEmpty then
    (inner.drop 1).dropLast
  else inner

/-- Code at the start of a text, from a run of backticks to the next run of as many, and what follows. -/
def readCodeSpan? (cs : Chars) : Option (Chars × Chars) :=
  let ticks := cs.takeWhile (· == '\x60')
  if ticks.isEmpty then none
  else
    (Atom.codeEnd? ticks.length 0 (cs.drop ticks.length)).map
      (fun (inner, later) => (spanContent inner, later))

-----------------------------------------------------------------------------------------
-- The closing run
-----------------------------------------------------------------------------------------

theorem codeEnd?_tick (count run : Nat) (cs : Chars)
    : Atom.codeEnd? count run ('\x60' :: cs) = Atom.codeEnd? count (run + 1) cs := rfl

/-- A run of backticks that is as long as it should be closes the code before it. -/
theorem codeEnd?_ticks (ended : later.head? ≠ some '\x60') (n : Nat)
    : Atom.codeEnd? (run + n) run (List.replicate n '\x60' ++ later) = some ([], later) := by
  induction n generalizing run with
  | zero =>
      cases later with
      | nil => simp [Atom.codeEnd?]
      | cons c later =>
          have other : c ≠ '\x60' := fun same => ended (by rw [same, List.head?_cons])
          simp [Atom.codeEnd?, other]
  | succ n ih =>
      have closed := @ih (run + 1)
      rw [List.replicate_succ, List.cons_append, codeEnd?_tick]
      rwa [Nat.add_assoc, Nat.add_comm 1 n] at closed

/-- No shorter run closes it before. -/
theorem codeEnd?_code {longest : Nat} (counted : run ≤ longest)
    (short : Chars.longestRunFrom '\x60' run longest inner < count)
    (apart : (List.replicate run '\x60' ++ inner).getLast? ≠ some '\x60')
    (ended : later.head? ≠ some '\x60')
    : Atom.codeEnd? count run (inner ++ (List.replicate count '\x60' ++ later))
      = some (List.replicate run '\x60' ++ inner, later) := by
  induction inner generalizing run longest with
  | nil =>
      obtain rfl : run = 0 := by
        by_contra some_tick
        obtain ⟨n, rfl⟩ := Nat.exists_eq_succ_of_ne_zero some_tick
        apply apart
        rw [List.append_nil, List.replicate_succ', List.getLast?_append]
        rfl
      have closed := @codeEnd?_ticks 0 _ ended count
      rwa [Nat.zero_add] at closed
  | cons c inner ih =>
      by_cases tick : c = '\x60'
      · subst tick
        have moved : List.replicate run '\x60' ++ '\x60' :: inner
            = List.replicate (run + 1) '\x60' ++ inner := by
          rw [List.replicate_succ', List.append_assoc, List.singleton_append]
        rw [moved] at apart ⊢
        rw [List.cons_append, codeEnd?_tick]
        apply ih (Nat.le_max_right longest (run + 1)) _ apart
        simpa [Chars.longestRunFrom] using short
      · have shorter : Chars.longestRunFrom '\x60' 0 longest inner < count := by
          simpa [Chars.longestRunFrom, tick] using short
        have open_run : run ≠ count := by
          have bound := Chars.le_longestRunFrom '\x60' 0 longest inner
          omega
        have behind : (List.replicate 0 '\x60' ++ inner).getLast? ≠ some '\x60' := by
          intro last
          apply apart
          rw [List.replicate_zero, List.nil_append] at last
          rw [List.getLast?_append, List.getLast?_cons, last]
          rfl
        have closed := ih (Nat.zero_le longest) shorter behind
        simp [Atom.codeEnd?, tick, open_run, closed]

-----------------------------------------------------------------------------------------
-- Padded code
-----------------------------------------------------------------------------------------

/-- Code as it stands between its backticks. -/
def paddedCode (s : Chars) : Chars :=
  if needsPadding s then ' ' :: (s ++ [' ']) else s

theorem codeSpan_eq (s : Chars)
    : codeSpan s = ticksFor s ++ (paddedCode s ++ ticksFor s) := by
  unfold codeSpan paddedCode
  split <;> simp

theorem longestRun_paddedCode (s : Chars)
    : Chars.longestRun '\x60' (paddedCode s) = Chars.longestRun '\x60' s := by
  unfold paddedCode
  split
  · exact Chars.longestRun_between (by decide) (by decide) s
  · rfl

/-- No backtick of the code touches those around it. -/
theorem paddedCode_edges (s : Chars)
    : (paddedCode s).head? ≠ some '\x60' ∧ (paddedCode s).getLast? ≠ some '\x60' := by
  unfold paddedCode
  split
  · rw [List.getLast?_cons, List.getLast?_append]
    constructor <;> simp
  · next bare =>
      simp only [needsPadding, Bool.or_eq_true, beq_iff_eq, not_or] at bare
      exact bare.1

/-- Code that is padded holds something visible. -/
theorem visible_of_needsPadding (padded : needsPadding s = true)
    : ∃ c ∈ s, Text.isBlank c = false := by
  have tick : Text.isBlank '\x60' = false := by decide
  simp only [needsPadding, Bool.or_eq_true, Bool.and_eq_true, beq_iff_eq, Bool.not_eq_true',
    List.isEmpty_eq_false_iff] at padded
  rcases padded with (first | last) | ⟨-, filled⟩
  · exact ⟨_, List.mem_of_mem_head? first, tick⟩
  · exact ⟨_, List.mem_of_getLast? last, tick⟩
  · rw [Chars.strip, ne_eq, Chars.trim_eq_nil] at filled
    push Not at filled
    simpa using filled

/-- The padding is taken away again, and nothing else. -/
theorem spanContent_paddedCode (s : Chars)
    : spanContent (paddedCode s) = s := by
  unfold paddedCode
  split
  · next padded =>
      obtain ⟨c, held, visible⟩ := visible_of_needsPadding padded
      have filled : Chars.strip (' ' :: (s ++ [' '])) ≠ [] := by
        intro empty
        have blank := Chars.trim_eq_nil.mp empty c (by simp [held])
        rw [visible] at blank
        cases blank
      simp [spanContent, filled, List.getLast?_cons, List.getLast?_append]
  · next bare =>
      simp only [needsPadding, Bool.or_eq_true, not_or] at bare
      rw [spanContent, if_neg bare.2]

-----------------------------------------------------------------------------------------
-- Code spans
-----------------------------------------------------------------------------------------

theorem paddedCode_ne_nil (filled : s ≠ [])
    : paddedCode s ≠ [] := by
  unfold paddedCode
  split
  · exact List.cons_ne_nil _ _
  · exact filled

theorem ticks_open (filled : s ≠ []) (later : Chars)
    : (codeSpan s ++ later).takeWhile (· == '\x60') = ticksFor s := by
  have other : (paddedCode s ++ (ticksFor s ++ later)).head? ≠ some '\x60' := by
    rw [List.head?_append_of_ne_nil _ (paddedCode_ne_nil filled)]
    exact (paddedCode_edges s).1
  rw [codeSpan_eq, List.append_assoc, List.append_assoc]
  exact Chars.takeWhile_run other _

/-- The code ends at the backticks written behind it, whatever else follows them. -/
theorem codeEnd?_codeSpan (ended : later.head? ≠ some '\x60')
    : Atom.codeEnd? (ticksFor s).length 0 (paddedCode s ++ (ticksFor s ++ later))
      = some (paddedCode s, later) := by
  have short : Chars.longestRunFrom '\x60' 0 0 (paddedCode s) < (ticksFor s).length := by
    have same := longestRun_paddedCode s
    rw [Chars.longestRun] at same
    rw [same, ticksFor, List.length_replicate]
    exact Nat.lt_succ_self _
  have closed := codeEnd?_code (Nat.le_refl 0) short (paddedCode_edges s).2 ended
  rwa [ticksFor, List.length_replicate] at closed ⊢

theorem drop_ticks (s later : Chars)
    : (codeSpan s ++ later).drop (ticksFor s).length = paddedCode s ++ (ticksFor s ++ later) := by
  rw [codeSpan_eq, List.append_assoc, List.append_assoc, List.drop_left]

theorem readCodeSpan?_codeSpan (filled : s ≠ []) (ended : later.head? ≠ some '\x60')
    : readCodeSpan? (codeSpan s ++ later) = some (s, later) := by
  have some_tick : (ticksFor s).isEmpty = false := by simp [ticksFor]
  simp only [readCodeSpan?, ticks_open filled, some_tick, drop_ticks, codeEnd?_codeSpan ended]
  simp [spanContent_paddedCode]

/-- Code that the reader takes for padded although the writer has not padded it: blanks other than spaces
between two spaces. -/
def LooksPadded (s : Chars) : Prop :=
  needsPadding s = false ∧ s.head? = some ' ' ∧ s.getLast? = some ' ' ∧ ∃ c ∈ s, c ≠ ' '

theorem codeContent_single (single : '\n' ∉ inner)
    : Atom.codeContent inner
      = if inner.all (· == ' ') then inner
        else if inner.head? == some ' ' && inner.getLast? == some ' ' then (inner.drop 1).dropLast
        else inner := by
  have kept : inner.map (fun c => if c == '\n' then ' ' else c) = inner := by
    refine (List.map_congr_left (fun c held => ?_)).trans (List.map_id inner)
    have other : c ≠ '\n' := fun feed => single (feed ▸ held)
    simp [other]
  rw [Atom.codeContent, kept]

theorem codeContent_eq_iff (single : '\n' ∉ s)
    : Atom.codeContent (paddedCode s) = s ↔ ¬ LooksPadded s := by
  unfold paddedCode LooksPadded
  cases padded : needsPadding s with
  | true =>
      obtain ⟨c, held, visible⟩ := visible_of_needsPadding padded
      have some_other : (' ' :: (s ++ [' '])).all (· == ' ') = false := by
        have other : c ≠ ' ' := by
          rintro rfl
          revert visible
          decide
        rw [List.all_eq_false]
        exact ⟨c, by simp [held], by simp [other]⟩
      rw [if_pos rfl, codeContent_single (by simp [single]), some_other]
      simp [List.getLast?_cons, List.getLast?_append]
  | false =>
      rw [if_neg Bool.false_ne_true, codeContent_single single]
      split
      · next spaces =>
          simpa using fun _ _ => spaces
      · next visible =>
          split
          · next edges =>
              obtain ⟨c, held, other⟩ : ∃ c ∈ s, c ≠ ' ' := by simpa using visible
              obtain ⟨first, last⟩ : s.head? = some ' ' ∧ s.getLast? = some ' ' := by
                simpa using edges
              obtain ⟨rest, rfl⟩ := List.head?_eq_some_iff.mp first
              have shorter : (((' ' :: rest).drop 1).dropLast).length ≠ (' ' :: rest).length := by
                simp only [List.drop_one, List.tail_cons, List.length_dropLast, List.length_cons]
                omega
              refine iff_of_false (fun same => shorter (congrArg List.length same)) ?_
              exact not_not.mpr ⟨rfl, first, last, c, held, other⟩
          · next edges =>
              refine iff_of_true rfl ?_
              rintro ⟨-, first, last, -⟩
              simp [first, last] at edges

/-- The reader, which takes no blanks but spaces for empty, reads code back unless it looks padded to it. -/
theorem code?_codeSpan_iff (filled : s ≠ []) (single : '\n' ∉ s) (ended : later.head? ≠ some '\x60')
    : Atom.code? (codeSpan s ++ later) = some (.leaf .codeSpan s {}, later) ↔ ¬ LooksPadded s := by
  have some_tick : (ticksFor s).isEmpty = false := by simp [ticksFor]
  simp only [Atom.code?, ticks_open filled, some_tick, drop_ticks, codeEnd?_codeSpan ended]
  simp [codeContent_eq_iff single]

/-- Code in a line is read back. -/
theorem code_reads_back (c : Context) (m : Mapping) (filled : s ≠ [])
    : ∃ text, writePiece c (.code s m) = .ok (.plain text) ∧ readCodeSpan? text = some (s, []) := by
  have read : readCodeSpan? (codeSpan s ++ []) = some (s, []) :=
    readCodeSpan?_codeSpan filled (by simp)
  rw [List.append_nil] at read
  exact ⟨codeSpan s, rfl, read⟩

/-- Backticks at both edges are kept apart from those around them. -/
theorem edge_backticks_read_back
    : let s := "\x60\x60 a \x60".toList
      let text := "\x60\x60\x60 \x60\x60 a \x60 \x60\x60\x60".toList
      s ≠ []
      ∧ writePiece (.root {}) (.code s []) = .ok (.plain text)
      ∧ readCodeSpan? text = some (s, []) := by
  intro s text
  have filled : s ≠ [] := by decide
  obtain ⟨written, same, read⟩ := code_reads_back (.root {}) [] filled
  have known : writePiece (.root {}) (.code s []) = .ok (.plain text) :=
    ok_of_toOption (by decide +kernel)
  obtain rfl := Piece.plain.inj (Except.ok.inj (known.symm.trans same))
  exact ⟨filled, known, read⟩

end MixedScript.Markdown
