import MixedScript.Proofs.Spacing.DeadEnds
import MixedScript.Proofs.Spacing.Passage

/-! Children of a flow in which spacing sees one text each. Markup around such a text makes no
difference to the gaps next to it. A token does: what blank texts hand on does not reach it. -/

namespace MixedScript.Spacing

variable {p x y : Char} {options : SpacingOptions} {form : Flow} {m : Mapping} {n left right : Node}
  {front blanks back cs : List Node} {s : Chars}

-----------------------------------------------------------------------------------------
-- Children with one text
-----------------------------------------------------------------------------------------

/-- A text, or flows nested around a single one. -/
inductive Wraps (s : Chars) : Node → Prop
  | text {m : Mapping} : Wraps s (.text s m)
  | flow {form : Flow} {n : Node} {m : Mapping} (inner : Wraps s n) : Wraps s (.flow form [n] m)

/-- A child in which spacing sees one text: a text of its own that is not empty, or one with
something visible and flows nested around it. -/
inductive OneText : Node → Prop
  | text {s : Chars} {m : Mapping} (filled : s ≠ []) : OneText (.text s m)
  | markup {s : Chars} {n : Node} (wraps : Wraps s n) (visible : isBlankRun s = false) : OneText n

theorem Wraps.leaf (wraps : Wraps s n)
    : ∃ m, n.firstLeaf = .ok (.text s m) ∧ n.lastLeaf = .ok (.text s m) := by
  induction wraps with
  | text => exact ⟨_, rfl, rfl⟩
  | flow _ ih => exact ih

theorem Wraps.shownText (wraps : Wraps s n)
    : shownText p n = s := by
  induction wraps with
  | text => exact List.append_nil s
  | flow _ ih => rw [shownText_flow, List.flatMap_singleton, ih]

theorem Wraps.deadEnds (wraps : Wraps s n)
    : deadEnds n = [] := by
  induction wraps with
  | text => rfl
  | flow _ ih => exact (List.append_nil _).trans ih

theorem OneText.wraps (one : OneText n)
    : ∃ s, Wraps s n := by
  cases one with
  | text => exact ⟨_, .text⟩
  | markup wraps => exact ⟨_, wraps⟩

/-- Only a text of its own is blank. -/
theorem OneText.blankText (one : OneText n) (blank : isBlankRun (shownText p n) = true)
    : BlankText n := by
  cases one with
  | @text s m filled => exact .intro filled (by rwa [Wraps.text.shownText] at blank)
  | markup wraps visible =>
      rw [wraps.shownText, visible] at blank
      cases blank

/-- A visible child starts and ends with its text. -/
theorem OneText.visible (one : OneText n) {s : Chars} (same : shownText p n = s)
    : ∃ m, n.firstLeaf = .ok (.text s m) ∧ n.lastLeaf = .ok (.text s m) := by
  obtain ⟨s, wraps⟩ := one.wraps
  rw [wraps.shownText] at same
  exact same ▸ wraps.leaf

-----------------------------------------------------------------------------------------
-- Success
-----------------------------------------------------------------------------------------

/-- A child whose work succeeds and whose boundaries are resolved. -/
structure Sound (n : Node) : Prop where
  inside : deadEnds n = []
  first : ∃ l, n.firstLeaf = .ok l
  last : ∃ l, n.lastLeaf = .ok l

theorem OneText.sound (one : OneText n)
    : Sound n := by
  obtain ⟨s, wraps⟩ := one.wraps
  obtain ⟨m, first, last⟩ := wraps.leaf
  exact ⟨wraps.deadEnds, ⟨_, first⟩, _, last⟩

theorem sound_of_isToken (token : isToken n = true)
    : Sound n := by
  cases n <;> first | exact ⟨rfl, ⟨_, rfl⟩, _, rfl⟩ | cases token

theorem deadEndsRest_of_sound (h : Sound n) (each : ∀ c ∈ cs, Sound c)
    : deadEndsRest n cs = [] := by
  induction cs generalizing n with
  | nil => rfl
  | cons c cs ih =>
      have next := each c (by simp)
      obtain ⟨_, last⟩ := h.last
      obtain ⟨_, first⟩ := next.first
      have boundary : boundaryDeadEnds n c = [] := by
        rw [boundaryDeadEnds, last, first]
        rfl
      rw [deadEndsRest, next.inside, boundary, ih next (fun d mem => each d (by simp [mem]))]
      rfl

/-- The work on sound children succeeds. -/
theorem fault_of_sound (each : ∀ c ∈ cs, Sound c)
    : (format .standard options (.flow form cs m)).fault = none := by
  rw [format, fault_formatNode]
  cases cs with
  | nil => rfl
  | cons c cs =>
      have head := each c (by simp)
      have tail := deadEndsRest_of_sound head (fun d mem => each d (.tail _ mem))
      rw [deadEnds, deadEndsFlow, head.inside, tail]
      rfl

-----------------------------------------------------------------------------------------
-- Texts
-----------------------------------------------------------------------------------------

theorem isEmpty_flatMap_blanks (blank : ∀ c ∈ blanks, BlankText c)
    : (blanks.flatMap (shownText p)).isEmpty = blanks.isEmpty := by
  cases blanks with
  | nil => rfl
  | cons c blanks =>
      cases blank c (by simp) with
      | intro filled =>
          rw [List.flatMap_cons, Wraps.text.shownText]
          simp [filled]

/-- Markup makes no difference to spacing. Between two visible texts of a flow, blank texts or none
between them, spacing leaves one space or nothing: what the table says of the characters next to the
gap and of whether there was anything in it. -/
theorem format_spaces_across_markup
    (texts : ∀ c ∈ front ++ left :: (blanks ++ right :: back), OneText c)
    (blank : ∀ c ∈ blanks, isBlankRun (shownText p c) = true)
    (ends : (trimRight (shownText p left)).getLast? = some x)
    (starts : (trimLeft (shownText p right)).head? = some y)
    : let run := format .standard options
        (.flow form (front ++ left :: (blanks ++ right :: back)) m)
      let written := trail (shownText p left)
        ++ (blanks.flatMap (shownText p) ++ lead (shownText p right))
      run.fault = none
      ∧ GapBetween ((front ++ [left]).flatMap (shownText p)) ((right :: back).flatMap (shownText p))
          (gap (wantsSpace (classify x) (classify y) (!written.isEmpty)))
          (shownText p run.result) := by
  intro run written
  have success : run.fault = none := fault_of_sound (fun c mem => (texts c mem).sound)
  obtain ⟨_, -, hl⟩ := (texts left (by simp)).visible (p := p) rfl
  obtain ⟨_, hr, -⟩ := (texts right (by simp)).visible (p := p) rfl
  have vl := isBlankRun_of_getLast? ends
  have vr := isBlankRun_of_head? starts
  have passed : ∀ c ∈ blanks, BlankText c :=
    fun c mem => (texts c (by simp [mem])).blankText (blank c mem)
  have had : (!written.isEmpty)
      = (endsBlank (shownText p left) || !blanks.isEmpty || startsBlank (shownText p right)) := by
    rw [endsBlank_eq_trail vl, startsBlank_eq_lead vr, ← isEmpty_flatMap_blanks (p := p) passed]
    simp only [written, isEmpty_append, Bool.not_and, Bool.or_assoc]
  have found := gap_between_texts (p := p) success passed hl vl hr vr
  rw [← had, spaceBetween_of_edges ends starts] at found
  exact ⟨success, (shownText_flow _ _ _).symm ▸ found⟩

/-- Two blank texts and a tab in the emphasis stand between the word and the strong CJK text. -/
theorem word_and_strong_text_spaced
    : let tree := Node.flow .paragraph
        [.flow .emphasis [.text ['a', '\t'] []] [], .text [' '] [], .text [' ', ' '] [],
          .flow .strong [.flow .emphasis [.text ['中'] []] []] []] []
      let run := format .standard {} tree
      run.fault = none ∧ GapBetween ['a', '\t'] ['中'] [' '] (shownText '#' run.result) := by
  refine @format_spaces_across_markup '#' 'a' '中' {} .paragraph []
    (.flow .emphasis [.text ['a', '\t'] []] []) (.flow .strong [.flow .emphasis [.text ['中'] []] []] [])
    [] [.text [' '] [], .text [' ', ' '] []] [] ?_ ?_ rfl rfl
  · intro c mem
    simp only [List.nil_append, List.cons_append, List.mem_cons, List.not_mem_nil, or_false] at mem
    rcases mem with rfl | rfl | rfl | rfl
    · exact .markup (.flow .text) rfl
    · exact .text (by simp)
    · exact .text (by simp)
    · exact .markup (.flow (.flow .text)) rfl
  · intro c mem
    simp only [List.mem_cons, List.not_mem_nil, or_false] at mem
    rcases mem with rfl | rfl <;> rfl

-----------------------------------------------------------------------------------------
-- Tokens
-----------------------------------------------------------------------------------------

theorem firstLeaf_of_isToken (token : isToken n = true)
    : n.firstLeaf = .ok n := by
  cases n <;> first | rfl | cases token

theorem lastLeaf_of_isToken (token : isToken n = true)
    : n.lastLeaf = .ok n := by
  cases n <;> first | rfl | cases token

/-- A token is no blank text. -/
theorem blankText_of_blank (shown : Text.isInlineBlank p = false)
    (child : OneText n ∨ isToken n = true) (blank : isBlankRun (shownText p n) = true)
    : BlankText n := by
  rcases child with one | token
  · exact one.blankText blank
  · obtain ⟨w, whole⟩ := shownText_of_firstToken (p := p) (firstLeaf_of_isToken token) token
    simp [whole, isBlankRun, shown] at blank

theorem wantsSpace_before_token {c : CharClass} {had : Bool} (spaced : CharClass.isSpaced c = true)
    : wantsSpace c .latin had = (c == .cjk) := by
  cases c <;> first | rfl | cases spaced

theorem wantsSpace_after_token {c : CharClass} {had : Bool} (spaced : CharClass.isSpaced c = true)
    : wantsSpace .latin c had = (c == .cjk) := by
  cases c <;> first | rfl | cases spaced

/-- Next to a token CJK text has one space and full-width punctuation none, as long as no blank text
stands between them. Blank texts leave nothing before a token and a space after it, whatever the text
is. -/
theorem format_spaces_beside_token (shown : Text.isInlineBlank p = false)
    (children : ∀ c ∈ front ++ left :: (blanks ++ right :: back), OneText c ∨ isToken c = true)
    (blank : ∀ c ∈ blanks, isBlankRun (shownText p c) = true)
    : let run := format .standard options
        (.flow form (front ++ left :: (blanks ++ right :: back)) m)
      let before := (front ++ [left]).flatMap (shownText p)
      let after := (right :: back).flatMap (shownText p)
      run.fault = none
      ∧ (∀ x, OneText left → (trimRight (shownText p left)).getLast? = some x →
          CharClass.isSpaced (classify x) = true → isToken right = true →
          GapBetween before after (gap (classify x == .cjk && blanks.isEmpty))
            (shownText p run.result))
      ∧ (∀ y, isToken left = true → OneText right → (trimLeft (shownText p right)).head? = some y →
          CharClass.isSpaced (classify y) = true →
          GapBetween before after (gap (classify y == .cjk || !blanks.isEmpty))
            (shownText p run.result)) := by
  intro run before after
  have success : run.fault = none :=
    fault_of_sound (fun c mem => (children c mem).elim OneText.sound sound_of_isToken)
  have passed : ∀ c ∈ blanks, BlankText c :=
    fun c mem => blankText_of_blank shown (children c (by simp [mem])) (blank c mem)
  have whole : shownText p run.result
      = (formatFlow .standard options form.kind
          (front ++ left :: (blanks ++ right :: back))).result.flatMap (shownText p) :=
    shownText_flow _ _ _
  rw [whole]
  refine ⟨success, ?_, ?_⟩
  · intro x text ends spaced token
    obtain ⟨_, -, hl⟩ := text.visible (p := p) rfl
    have found := gap_before_token success passed shown hl (isBlankRun_of_getLast? ends)
      (firstLeaf_of_isToken token) token
    have stand : classify 'A' = .latin := rfl
    rwa [spaceBetween_of_edges ends (y := 'A') rfl, stand, wantsSpace_before_token spaced,
      Bool.and_comm] at found
  · intro y token text starts spaced
    obtain ⟨_, hr, -⟩ := text.visible (p := p) rfl
    have found := gap_after_token success passed shown (lastLeaf_of_isToken token) token hr
      (isBlankRun_of_head? starts)
    have stand : classify 'A' = .latin := rfl
    rwa [spaceBetween_of_edges (x := 'A') rfl starts, stand, wantsSpace_after_token spaced,
      Bool.or_comm] at found

/-- A space before code and none after it: strong CJK text, code, and a full-width comma. -/
theorem code_between_text_and_comma
    : let tree := Node.flow .paragraph
        [.flow .strong [.text ['中', '\t'] []] [], .code ['x'] [], .text [' ', '，'] []] []
      let run := format .standard {} tree
      run.fault = none
      ∧ GapBetween ['中', '\t'] ['#', ' ', '，'] [' '] (shownText '#' run.result)
      ∧ GapBetween ['中', '\t', '#'] [' ', '，'] [] (shownText '#' run.result) := by
  have children : ∀ c ∈ [Node.flow .strong [.text ['中', '\t'] []] [], .code ['x'] [],
      .text [' ', '，'] []], OneText c ∨ isToken c = true := by
    intro c mem
    simp only [List.mem_cons, List.not_mem_nil, or_false] at mem
    rcases mem with rfl | rfl | rfl
    · exact .inl (.markup (.flow .text) rfl)
    · exact .inr rfl
    · exact .inl (.text (by simp))
  have before := @format_spaces_beside_token '#' {} .paragraph []
    (.flow .strong [.text ['中', '\t'] []] []) (.code ['x'] []) [] [] [.text [' ', '，'] []] rfl
    children nofun
  have after := @format_spaces_beside_token '#' {} .paragraph [] (.code ['x'] [])
    (.text [' ', '，'] []) [.flow .strong [.text ['中', '\t'] []] []] [] [] rfl children nofun
  exact ⟨before.1, before.2.1 '中' (.markup (.flow .text) rfl) rfl rfl rfl,
    after.2.2 '，' rfl (.text (by simp)) rfl rfl⟩

/-- Tokens are not always separated from CJK text, and not only from it. A blank text between CJK text
and code leaves nothing: the text of a character, a space and code, in three children, has no space.
A blank text between code and full-width punctuation leaves its space. -/
theorem blank_text_beside_token_misread
    : (¬ ∀ (p x : Char) (left right : Node) (front blanks back : List Node),
        Text.isInlineBlank p = false →
        (∀ c ∈ front ++ left :: (blanks ++ right :: back), OneText c ∨ isToken c = true) →
        (∀ c ∈ blanks, isBlankRun (shownText p c) = true) →
        OneText left → (trimRight (shownText p left)).getLast? = some x →
        CharClass.isSpaced (classify x) = true → isToken right = true →
        GapBetween ((front ++ [left]).flatMap (shownText p)) ((right :: back).flatMap (shownText p))
          (gap (classify x == .cjk))
          (shownText p (format .standard {}
            (.flow .paragraph (front ++ left :: (blanks ++ right :: back)) [])).result))
      ∧ ¬ ∀ (p y : Char) (left right : Node) (front blanks back : List Node),
        Text.isInlineBlank p = false →
        (∀ c ∈ front ++ left :: (blanks ++ right :: back), OneText c ∨ isToken c = true) →
        (∀ c ∈ blanks, isBlankRun (shownText p c) = true) →
        isToken left = true → OneText right → (trimLeft (shownText p right)).head? = some y →
        CharClass.isSpaced (classify y) = true →
        GapBetween ((front ++ [left]).flatMap (shownText p)) ((right :: back).flatMap (shownText p))
          (gap (classify y == .cjk))
          (shownText p (format .standard {}
            (.flow .paragraph (front ++ left :: (blanks ++ right :: back)) [])).result) := by
  have text : ∀ {s : Chars}, s ≠ [] → OneText (.text s []) := .text
  refine ⟨fun separated => ?_, fun separated => ?_⟩
  · have claimed := separated '#' '你' (.text ['你'] []) (.code ['x'] []) [] [.text [' '] []] [] rfl
      (by simp [text, isToken]) (by simp [shownText, Node.leaves, isBlankRun, Text.isInlineBlank])
      (text (by simp)) rfl rfl rfl
    have actual : GapBetween ['你'] ['#'] [] ['你', '#'] :=
      ⟨['你'], ['#'], rfl, ⟨rfl, [], '你', rfl, rfl⟩, ⟨rfl, '#', [], rfl, rfl⟩⟩
    cases claimed.unique actual
  · have claimed := separated '#' '，' (.code ['x'] []) (.text ['，'] []) [] [.text [' '] []] [] rfl
      (by simp [text, isToken]) (by simp [shownText, Node.leaves, isBlankRun, Text.isInlineBlank])
      rfl (text (by simp)) rfl rfl
    have actual : GapBetween ['#'] ['，'] [' '] ['#', ' ', '，'] :=
      ⟨['#'], ['，'], rfl, ⟨rfl, [], '#', rfl, rfl⟩, ⟨rfl, '，', [], rfl, rfl⟩⟩
    cases claimed.unique actual

end MixedScript.Spacing
