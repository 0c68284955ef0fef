import MixedScript.Proofs.Spacing.TextRun

/-! A run of text gap by gap. A run is a row of visible characters with a gap before the first and one
behind each of them. Tidying looks at every gap for itself, and changes it only inside a line and next
to CJK text or full-width punctuation. -/

namespace MixedScript.Spacing

-----------------------------------------------------------------------------------------
-- Runs as rows of visible characters
-----------------------------------------------------------------------------------------

/-- Visible characters, each with the gap behind it, and the gap before the first of them. -/
@[ext]
structure Gapped where
  lead : Chars
  row : List (Char × Chars)
  lead_invisible : ∀ c ∈ lead, isVisible c = false
  row_visible : ∀ p ∈ row, isVisible p.1 = true
  gaps_invisible : ∀ p ∈ row, ∀ c ∈ p.2, isVisible c = false

namespace Gapped

/-- The text of visible characters and the gaps behind them. -/
def spell (row : List (Char × Chars)) : Chars :=
  row.flatMap (fun p => p.1 :: p.2)

def text (t : Gapped) : Chars :=
  t.lead ++ spell t.row

/-- A run cut into its visible characters and the gaps around them. -/
def ofText : Chars → Gapped
  | [] => ⟨[], [], by simp, by simp, by simp⟩
  | c :: rest =>
    let t := ofText rest
    if shown : isVisible c = true then
      ⟨[], (c, t.lead) :: t.row, by simp, List.forall_mem_cons.mpr ⟨shown, t.row_visible⟩,
        List.forall_mem_cons.mpr ⟨t.lead_invisible, t.gaps_invisible⟩⟩
    else
      ⟨c :: t.lead, t.row,
        List.forall_mem_cons.mpr ⟨Bool.eq_false_of_not_eq_true shown, t.lead_invisible⟩,
        t.row_visible, t.gaps_invisible⟩

theorem text_ofText (s : Chars)
    : (ofText s).text = s := by
  induction s with
  | nil => rfl
  | cons c rest ih =>
      simp only [ofText]
      split
      · exact congrArg (c :: ·) ih
      · exact congrArg (c :: ·) ih

theorem ofText_visible {c : Char} (shown : isVisible c = true) (rest : Chars)
    : (ofText (c :: rest)).lead = []
      ∧ (ofText (c :: rest)).row = (c, (ofText rest).lead) :: (ofText rest).row := by
  simp [ofText, shown]

theorem ofText_invisible {c : Char} (unseen : isVisible c = false) (rest : Chars)
    : (ofText (c :: rest)).lead = c :: (ofText rest).lead
      ∧ (ofText (c :: rest)).row = (ofText rest).row := by
  simp [ofText, unseen]

theorem ofText_append {z : Chars} (unseen : ∀ c ∈ z, isVisible c = false) (rest : Chars)
    : (ofText (z ++ rest)).lead = z ++ (ofText rest).lead
      ∧ (ofText (z ++ rest)).row = (ofText rest).row := by
  induction z with
  | nil => exact ⟨rfl, rfl⟩
  | cons c z ih =>
      obtain ⟨unseenHere, later⟩ := List.forall_mem_cons.mp unseen
      obtain ⟨leads, rows⟩ := ih later
      rw [List.cons_append, (ofText_invisible unseenHere _).1, (ofText_invisible unseenHere _).2,
        leads, rows]
      exact ⟨rfl, rfl⟩

theorem ofText_spell {row : List (Char × Chars)} (shown : ∀ p ∈ row, isVisible p.1 = true)
    (unseen : ∀ p ∈ row, ∀ c ∈ p.2, isVisible c = false)
    : (ofText (spell row)).lead = [] ∧ (ofText (spell row)).row = row := by
  induction row with
  | nil => exact ⟨rfl, rfl⟩
  | cons p row ih =>
      obtain ⟨shownHere, shown⟩ := List.forall_mem_cons.mp shown
      obtain ⟨unseenHere, unseen⟩ := List.forall_mem_cons.mp unseen
      obtain ⟨leads, rows⟩ := ih shown unseen
      obtain ⟨gapLeads, gapRows⟩ := ofText_append unseenHere (spell row)
      have split := ofText_visible shownHere (p.2 ++ spell row)
      rw [gapLeads, gapRows, leads, rows, List.append_nil] at split
      exact split

/-- A run is cut in one way only. -/
theorem ofText_text (t : Gapped)
    : ofText t.text = t := by
  obtain ⟨leads, rows⟩ := ofText_spell t.row_visible t.gaps_invisible
  obtain ⟨gapLeads, gapRows⟩ := ofText_append t.lead_invisible (spell t.row)
  rw [leads, List.append_nil] at gapLeads
  exact Gapped.ext gapLeads (gapRows.trans rows)

end Gapped

open Gapped (spell)

-----------------------------------------------------------------------------------------
-- Gap by gap
-----------------------------------------------------------------------------------------

/-- What becomes of the gap between two visible characters. It stays if a line ends in it or if it
stands between two characters that are neither CJK nor full-width punctuation; otherwise it holds a
space or nothing, as the decision table says. -/
inductive GapTidied (classOf : Char → CharClass) (a b : Char) : Chars → Chars → Prop
  | lineEnd {g} (broken : isBlankRun g = false) : GapTidied classOf a b g g
  | prose {g} (left : CharClass.isSpaced (classOf a) = false)
    (right : CharClass.isSpaced (classOf b) = false)
    : GapTidied classOf a b g g
  | spaced {g} (inLine : isBlankRun g = true)
    (either : CharClass.isSpaced (classOf a) = true ∨ CharClass.isSpaced (classOf b) = true)
    : GapTidied classOf a b g (gap (spaceBetween classOf [a] [b] (!g.isEmpty)))

/-- What becomes of visible characters with gaps behind them. The last gap stays. -/
inductive RowTidied (classOf : Char → CharClass)
    : List (Char × Chars) → List (Char × Chars) → Prop
  | nil : RowTidied classOf [] []
  | last (a g) : RowTidied classOf [(a, g)] [(a, g)]
  | cons {a b g g' h h' row row'} (between : GapTidied classOf a b g g')
    (rest : RowTidied classOf ((b, h) :: row) ((b, h') :: row'))
    : RowTidied classOf ((a, g) :: (b, h) :: row) ((a, g') :: (b, h') :: row')

variable {classOf : Char → CharClass} {wants : Char → Char → Bool → Bool} {before : Option Char}
  {a b : Char} {g g' z : Chars} {row row' : List (Char × Chars)}

theorem RowTidied.visible (tidied : RowTidied classOf row row')
    : row'.map Prod.fst = row.map Prod.fst := by
  induction tidied with
  | nil | last => rfl
  | cons _ _ ih => exact congrArg (_ :: ·) ih

theorem isVisible_of_blank {c : Char} (blank : Text.isInlineBlank c = true)
    : isVisible c = false := by
  rcases Bool.or_eq_true_iff.mp blank with h | h
  · rw [beq_iff_eq.mp h]; rfl
  · rw [beq_iff_eq.mp h]; rfl

theorem isInlineBlank_of_isVisible {c : Char} (shown : isVisible c = true)
    : Text.isInlineBlank c = false := by
  by_contra blank
  rw [isVisible_of_blank (Bool.eq_true_of_not_eq_false blank)] at shown
  cases shown

theorem GapTidied.invisible (tidied : GapTidied classOf a b g g')
    (unseen : ∀ c ∈ g, isVisible c = false)
    : ∀ c ∈ g', isVisible c = false := by
  cases tidied with
  | lineEnd | prose => exact unseen
  | spaced =>
      intro c held
      exact isVisible_of_blank (isBlankRun_iff.mp (isBlankRun_gap _) c held)

theorem RowTidied.invisible (tidied : RowTidied classOf row row')
    (unseen : ∀ p ∈ row, ∀ c ∈ p.2, isVisible c = false)
    : ∀ p ∈ row', ∀ c ∈ p.2, isVisible c = false := by
  induction tidied with
  | nil | last => exact unseen
  | cons between _ ih =>
      obtain ⟨here, later⟩ := List.forall_mem_cons.mp unseen
      exact List.forall_mem_cons.mpr ⟨between.invisible here, ih later⟩

/-- What the decision table says about the gap between two characters. -/
def askTable (classOf : Char → CharClass) (left right : Char) (had : Bool) : Bool :=
  spaceBetween classOf [left] [right] had

/-- At the start of a line a gap stays, whatever follows. -/
theorem tidyFrom_none (g s : Chars)
    : tidyFrom classOf wants none g s = g ++ tidyFrom classOf wants none [] s := by
  induction s generalizing g with
  | nil => simp [tidyFrom]
  | cons c rest ih =>
      cases blank : Text.isInlineBlank c with
      | true =>
          simp only [tidyFrom, blank, if_true]
          rw [ih (g ++ [c]), ih ([] ++ [c])]
          simp
      | false =>
          rw [tidyFrom_cons blank, tidyFrom_cons blank]
          rfl

theorem tidyFrom_invisible (unseen : ∀ c ∈ z, isVisible c = false) (s : Chars)
    : tidyFrom classOf wants none [] (z ++ s) = z ++ tidyFrom classOf wants none [] s := by
  induction z with
  | nil => rfl
  | cons c z ih =>
      obtain ⟨unseenHere, later⟩ := List.forall_mem_cons.mp unseen
      rw [List.cons_append, List.cons_append, ← ih later]
      cases blank : Text.isInlineBlank c with
      | true =>
          simp only [tidyFrom, blank, if_true]
          exact tidyFrom_none _ _
      | false =>
          rw [tidyFrom_cons blank]
          simp [filling, lineAfter, unseenHere]

/-- A gap in which a line ends stays, and what follows it starts a line. -/
theorem tidyFrom_lineEnd (unseen : ∀ c ∈ z, isVisible c = false) (broken : isBlankRun z = false)
    (s : Chars)
    : tidyFrom classOf wants before g (z ++ s) = g ++ (z ++ tidyFrom classOf wants none [] s) := by
  induction z generalizing g with
  | nil => cases broken
  | cons c z ih =>
      obtain ⟨unseenHere, later⟩ := List.forall_mem_cons.mp unseen
      cases blank : Text.isInlineBlank c with
      | true =>
          have brokenLater : isBlankRun z = false := by simpa [isBlankRun, blank] using broken
          simp only [List.cons_append, tidyFrom, blank, if_true]
          rw [ih later brokenLater]
          simp
      | false =>
          have stays : filling classOf wants before g c = g := by
            cases before <;> simp [filling, unseenHere]
          have starts : lineAfter c = none := by simp [lineAfter, unseenHere]
          rw [List.cons_append, tidyFrom_cons blank, stays, starts, tidyFrom_invisible later]
          rfl

/-- A gap that is read behind a visible character, up to the next one. -/
theorem tidyFrom_gap (classOf : Char → CharClass) (a : Char)
    (unseen : ∀ c ∈ g, isVisible c = false) (shown : isVisible b = true) (s : Chars)
    : ∃ g',
        GapTidied classOf a b g g'
        ∧ tidyFrom classOf (askTable classOf) (some a) [] (g ++ b :: s)
          = g' ++ b :: tidyFrom classOf (askTable classOf) (some b) [] s := by
  have solid := isInlineBlank_of_isVisible shown
  have starts : lineAfter b = some b := if_pos shown
  cases inLine : isBlankRun g with
  | false =>
      refine ⟨g, .lineEnd inLine, ?_⟩
      rw [tidyFrom_lineEnd unseen inLine, tidyFrom_cons solid, starts]
      rfl
  | true =>
      refine ⟨_, ?_, by rw [tidyFrom_blank_append inLine, tidyFrom_cons solid, starts]⟩
      simp only [List.nil_append, filling, shown, if_true, tidyGap]
      split
      · next either => exact .spaced inLine (Bool.or_eq_true_iff.mp either)
      · next neither =>
          obtain ⟨left, right⟩ := Bool.or_eq_false_iff.mp (Bool.eq_false_of_not_eq_true neither)
          exact .prose left right

/-- A row is tidied gap by gap. -/
theorem tidyFrom_row (a : Char) (g : Chars) (row : List (Char × Chars))
    (shown : ∀ p ∈ row, isVisible p.1 = true)
    (unseen : ∀ p ∈ (a, g) :: row, ∀ c ∈ p.2, isVisible c = false)
    : ∃ g' row',
        RowTidied classOf ((a, g) :: row) ((a, g') :: row')
        ∧ tidyFrom classOf (askTable classOf) (some a) [] (g ++ spell row) = g' ++ spell row' := by
  obtain ⟨unseenHere, unseenLater⟩ := List.forall_mem_cons.mp unseen
  induction row generalizing a g with
  | nil =>
      refine ⟨g, [], .last a g, ?_⟩
      cases inLine : isBlankRun g with
      | true =>
          rw [show spell [] = [] from rfl, List.append_nil, tidyFrom_blank inLine, List.nil_append]
      | false =>
          rw [tidyFrom_lineEnd unseenHere inLine]
          rfl
  | cons next row ih =>
      obtain ⟨b, h⟩ := next
      obtain ⟨shownHere, shownLater⟩ := List.forall_mem_cons.mp shown
      obtain ⟨unseenNext, unseenRest⟩ := List.forall_mem_cons.mp unseenLater
      obtain ⟨h', row', tidied, rest⟩ := ih b h shownLater unseenLater unseenNext unseenRest
      obtain ⟨g', between, here⟩ := tidyFrom_gap classOf a unseenHere shownHere (h ++ spell row)
      refine ⟨g', (b, h') :: row', .cons between tidied, ?_⟩
      rw [show spell ((b, h) :: row) = b :: (h ++ spell row) from rfl, here, rest]
      rfl

/-- A run is tidied to a run with the same visible characters and each of its gaps tidied. -/
theorem tidyText_gapped (classOf : Char → CharClass) (source : Gapped)
    : ∃ target : Gapped,
        target.lead = source.lead
        ∧ RowTidied classOf source.row target.row
        ∧ tidyText classOf (askTable classOf) source.text = target.text := by
  have rest : ∃ row',
      RowTidied classOf source.row row'
      ∧ tidyFrom classOf (askTable classOf) none [] (spell source.row) = spell row' := by
    cases made : source.row with
    | nil => exact ⟨[], .nil, rfl⟩
    | cons p row =>
        have shown := made ▸ source.row_visible
        have unseen := made ▸ source.gaps_invisible
        obtain ⟨shownHere, shownLater⟩ := List.forall_mem_cons.mp shown
        obtain ⟨g', row', tidied, rest⟩ := tidyFrom_row p.1 p.2 row shownLater unseen
        refine ⟨(p.1, g') :: row', tidied, ?_⟩
        rw [show spell (p :: row) = p.1 :: (p.2 ++ spell row) from rfl,
          tidyFrom_cons (isInlineBlank_of_isVisible shownHere), lineAfter, if_pos shownHere, rest]
        rfl
  obtain ⟨row', tidied, whole⟩ := rest
  have shown : ∀ p ∈ row', isVisible p.1 = true := by
    intro p held
    have mem : p.1 ∈ source.row.map Prod.fst := tidied.visible ▸ List.mem_map_of_mem held
    obtain ⟨q, heldBefore, same⟩ := List.mem_map.mp mem
    exact same ▸ source.row_visible q heldBefore
  refine ⟨⟨source.lead, row', source.lead_invisible, shown, tidied.invisible source.gaps_invisible⟩,
    rfl, tidied, ?_⟩
  rw [tidyText, Gapped.text, tidyFrom_invisible source.lead_invisible, whole]
  rfl

/-- Tidying a run tidies each of its gaps and leaves the rest as it is, whatever the classes of the
characters are; and what has been tidied stays as it is. -/
theorem text_tidies_each_gap (classOf : Char → CharClass) (s : Chars)
    : ∃ t,
        (Rules.ofClasses classOf).text s = .value t
        ∧ (Gapped.ofText t).lead = (Gapped.ofText s).lead
        ∧ (Gapped.ofText t).row.map Prod.fst = (Gapped.ofText s).row.map Prod.fst
        ∧ RowTidied classOf (Gapped.ofText s).row (Gapped.ofText t).row
        ∧ (Rules.ofClasses classOf).text t = .value t := by
  obtain ⟨target, leads, tidied, made⟩ := tidyText_gapped classOf (Gapped.ofText s)
  rw [Gapped.text_ofText] at made
  refine ⟨target.text, congrArg Reply.value made, ?_, ?_, ?_, congrArg Reply.value ?_⟩
  · rw [Gapped.ofText_text, leads]
  · rw [Gapped.ofText_text]
    exact tidied.visible
  · rw [Gapped.ofText_text]
    exact tidied
  · rw [← made]
    exact tidyText_tidyText (fun _ _ wanted => wantsSpace_mono wanted) s

end MixedScript.Spacing
