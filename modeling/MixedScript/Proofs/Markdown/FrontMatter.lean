import MixedScript.Format
import MixedScript.Proofs.Result
import MixedScript.Proofs.Text.Chars

/-! Front matter. Splitting it off loses nothing of a source, and reading a source fails for nothing but
a value in its front matter that has a form of its own and is no value. -/

namespace MixedScript

open Markdown

namespace Markdown

variable {cs rest body : Chars} {mayEnd : Bool} {f : FrontMatter}

-----------------------------------------------------------------------------------------
-- Fences
-----------------------------------------------------------------------------------------

/-- Three hyphens, with nothing but spaces and tabs behind them. -/
def IsRule (line : Chars) : Prop :=
  ∃ blanks : Chars, line = '-' :: '-' :: '-' :: blanks ∧ ∀ c ∈ blanks, Text.isInlineBlank c = true

/-- What ends the line of a fence before some rest; the last line of a text may lack it. -/
def IsLineEnd (mayEnd : Bool) (rest ending : Chars) : Prop :=
  ending = ['\n'] ∨ ending = ['\r', '\n'] ∨ mayEnd = true ∧ ending = [] ∧ rest = []

/-- A fence is the line of a rule. -/
theorem afterFenceLine?_eq_some (h : afterFenceLine? mayEnd cs = some rest)
    : ∃ rule ending, cs = rule ++ ending ++ rest ∧ IsRule rule ∧ IsLineEnd mayEnd rest ending := by
  unfold afterFenceLine? at h
  split at h
  · next behind =>
      have parts : behind = behind.takeWhile Text.isInlineBlank ++ behind.dropWhile Text.isInlineBlank :=
        (List.takeWhile_append_dropWhile ..).symm
      have blank : ∀ c ∈ behind.takeWhile Text.isInlineBlank, Text.isInlineBlank c = true :=
        fun c held => List.mem_takeWhile_imp held
      refine ⟨'-' :: '-' :: '-' :: behind.takeWhile Text.isInlineBlank, ?_⟩
      split at h
      · next later found =>
          obtain rfl := Option.some.inj h
          refine ⟨['\n'], ?_, ⟨_, rfl, blank⟩, .inl rfl⟩
          rw [found] at parts
          simpa using parts
      · next later found =>
          obtain rfl := Option.some.inj h
          refine ⟨['\r', '\n'], ?_, ⟨_, rfl, blank⟩, .inr (.inl rfl)⟩
          rw [found] at parts
          simpa using parts
      · next found =>
          split at h
          · next allowed =>
              obtain rfl := Option.some.inj h
              refine ⟨[], ?_, ⟨_, rfl, blank⟩, .inr (.inr ⟨allowed, rfl, rfl⟩)⟩
              rw [found] at parts
              simpa using parts
          · cases h
      · cases h
  · cases h

theorem suffix_of_afterFenceLine? (h : afterFenceLine? mayEnd cs = some rest)
    : rest <:+ cs := by
  obtain ⟨rule, ending, rfl, -, -⟩ := afterFenceLine?_eq_some h
  exact List.suffix_append ..

/-- The body of front matter and its last fence stand in front of what follows. -/
theorem frontMatterBody?_eq_some {fuel : Nat} (h : frontMatterBody? fuel cs = some (body, rest))
    : ∃ later, cs = body ++ later ∧ afterFenceLine? true later = some rest := by
  induction fuel generalizing cs body with
  | zero => cases h
  | succ fuel ih =>
      unfold frontMatterBody? at h
      split at h
      · cases h
      · next c later found =>
          have behind : later <:+ cs := by
            have dropped := List.dropWhile_suffix (l := cs) (· != '\n')
            rw [found] at dropped
            exact (List.suffix_cons c later).trans dropped
          obtain ⟨line, rfl⟩ := behind
          simp only [List.length_append, Nat.add_sub_cancel, List.take_left] at h
          split at h
          · next rest' fence =>
              obtain ⟨rfl, rfl⟩ := Prod.mk.inj (Option.some.inj h)
              exact ⟨later, rfl, fence⟩
          · obtain ⟨⟨body', rest'⟩, further, made⟩ := Option.map_eq_some_iff.mp h
            obtain ⟨rfl, rfl⟩ := Prod.mk.inj made
            obtain ⟨later', rfl, fence⟩ := ih further
            exact ⟨later', by simp, fence⟩

/-- Front matter is a fence, a body and a fence, in front of what follows. -/
theorem FrontMatter.split?_eq_some (h : FrontMatter.split? cs = some f)
    : f.raw ++ f.rest = cs
      ∧ ∃ start later,
          afterFenceLine? false cs = some start
          ∧ start = f.body ++ later
          ∧ afterFenceLine? true later = some f.rest := by
  obtain ⟨start, opened, h⟩ := Option.bind_eq_some_iff.mp h
  have closed : ∃ body rest later,
      start = body ++ later
      ∧ afterFenceLine? true later = some rest
      ∧ f = ⟨cs.take (cs.length - rest.length), body, rest⟩ := by
    dsimp only at h
    split at h
    · next found whole =>
        obtain ⟨body, rest⟩ := found
        obtain ⟨later, parts, fence⟩ := frontMatterBody?_eq_some whole
        exact ⟨body, rest, later, parts, fence, (Option.some.inj h).symm⟩
    · obtain ⟨⟨body, rest⟩, found, made⟩ := Option.bind_eq_some_iff.mp h
      obtain ⟨rest', fence, same⟩ := Option.map_eq_some_iff.mp found
      obtain ⟨rfl, rfl⟩ := Prod.mk.inj same
      exact ⟨[], rest', start, rfl, fence, (Option.some.inj made).symm⟩
  obtain ⟨body, rest, later, parts, fence, rfl⟩ := closed
  refine ⟨?_, start, later, opened, parts, fence⟩
  have behind : rest <:+ cs := by
    refine (suffix_of_afterFenceLine? fence).trans (.trans ?_ (suffix_of_afterFenceLine? opened))
    rw [parts]
    exact List.suffix_append ..
  obtain ⟨raw, rfl⟩ := behind
  simp

-----------------------------------------------------------------------------------------
-- Sources
-----------------------------------------------------------------------------------------

variable {options : ReaderOptions} {metadata : Mapping} {m : Mishap}

/-- The front matter that is looked at in a source. -/
def frontMatterOf? (options : ReaderOptions) (cs : Chars) : Option FrontMatter :=
  if options.frontMatter then FrontMatter.split? cs else none

theorem split?_of_frontMatterOf? (h : frontMatterOf? options cs = some f)
    : FrontMatter.split? cs = some f := by
  unfold frontMatterOf? at h
  split at h
  · exact h
  · cases h

/-- The block that metadata keeps as it was written; nothing where there is none. -/
def keptBlock (metadata : Mapping) : Chars :=
  match metadata.get? (.str "frontmatter") with
  | some (.str raw) => raw.toList
  | _ => []

theorem keptBlock_metadata (f : FrontMatter) (data : Option Mapping)
    : keptBlock (f.metadata data) = f.raw := by
  simp [keptBlock, FrontMatter.metadata, Mapping.get?, Scalar.sameKey]

/-- What is kept of a source and what is left of it are the source. -/
theorem keptBlock_append_rest {preamble : Preamble} (h : readPreamble options cs = .ok preamble)
    : keptBlock preamble.metadata ++ preamble.rest = cs := by
  unfold readPreamble at h
  split at h
  · obtain rfl := Except.ok.inj h
    rfl
  · next f found =>
      have whole := (FrontMatter.split?_eq_some (split?_of_frontMatterOf? found)).1
      split at h
      · obtain rfl := Except.ok.inj h
        rw [keptBlock_metadata, whole]
      · obtain rfl := Except.ok.inj h
        rw [keptBlock_metadata, whole]
      · obtain rfl := Except.ok.inj h
        rfl
      · obtain rfl := Except.ok.inj h
        rw [keptBlock_metadata, whole]
      · cases h

/-- A source is given up only for a value in its front matter that is none. -/
theorem readPreamble_error
    : readPreamble options cs = .error m
      ↔ ∃ f, frontMatterOf? options cs = some f ∧ Yaml.load f.body = .error (.value m) := by
  unfold readPreamble
  rw [← frontMatterOf?]
  cases frontMatterOf? options cs with
  | none => simp
  | some f =>
      simp only [Option.some.injEq, exists_eq_left']
      cases loaded : Yaml.load f.body with
      | error refusal => cases refusal <;> simp
      | ok value =>
          cases value with
          | scalar s => cases s <;> simp
          | list | map | set => simp

theorem readPreamble_none (h : frontMatterOf? options cs = none)
    : readPreamble options cs = .ok ⟨[], cs, []⟩ := by
  unfold readPreamble
  rw [← frontMatterOf?, h]

theorem readPreamble_malformed (found : frontMatterOf? options cs = some f)
    (malformed : Yaml.load f.body = .error .malformed) {preamble : Preamble}
    (h : readPreamble options cs = .ok preamble)
    : preamble.metadata = f.metadata none := by
  unfold readPreamble at h
  rw [← frontMatterOf?, found] at h
  simp only [malformed] at h
  obtain rfl := Except.ok.inj h
  rfl

end Markdown

variable {options : ReaderOptions} {cs : Chars}

theorem readDocument_of_preamble {preamble : Preamble} (h : readPreamble options cs = .ok preamble)
    : (readDocument options cs).result
      = .ok (.group .document (blocksOf options preamble.rest) preamble.metadata) := by
  simp only [readDocument, Markdown.read, h]
  rfl

theorem readDocument_of_error {m : Mishap} (h : readPreamble options cs = .error m)
    : (readDocument options cs).result = .error (.outside m) := by
  simp only [readDocument, Markdown.read, h]
  rfl

/-- Front matter that a document carries: no data, a mapping, or what cannot be loaded. -/
def Markdown.FrontMatter.Carried (f : FrontMatter) : Prop :=
  match Yaml.load f.body with
  | .ok (.map _) | .ok .null | .error _ => True
  | .ok _ => False

/-- A text is all blocks unless it has front matter that a document carries. -/
theorem readDocument_bare_iff
    : (∃ blocks, (readDocument options cs).result = .ok (.group .document blocks []))
      ↔ ∀ f, frontMatterOf? options cs = some f → ¬ f.Carried := by
  have bare
      : (∃ preamble, readPreamble options cs = .ok preamble ∧ preamble.metadata = [])
        ↔ ∀ f, frontMatterOf? options cs = some f → ¬ f.Carried := by
    unfold readPreamble
    rw [← frontMatterOf?]
    cases frontMatterOf? options cs with
    | none => simp
    | some f =>
        simp only [Option.some.injEq, forall_eq', FrontMatter.Carried]
        cases loaded : Yaml.load f.body with
        | error refusal => cases refusal <;> simp [FrontMatter.metadata]
        | ok value =>
            cases value with
            | scalar s => cases s <;> simp [FrontMatter.metadata]
            | list | map | set => simp [FrontMatter.metadata]
  rw [← bare]
  cases outcome : readPreamble options cs with
  | error m => simp [readDocument_of_error outcome]
  | ok preamble => simp [readDocument_of_preamble outcome]

/-- Reading a text fails exactly if its front matter is well formed and holds a value that is none, such
as a date in a thirteenth month; and then it fails outside the errors of the library. Of any other text
the document keeps the front matter, and the blocks are those of what is left: no character is lost
between them. Front matter that is not well formed is all that the document keeps of it. -/
theorem readDocument_front_matter (options : ReaderOptions) (cs : Chars)
    : (∀ p, (readDocument options cs).result = .error p
        ↔ ∃ m, p = .outside m
          ∧ ∃ f, frontMatterOf? options cs = some f ∧ Yaml.load f.body = .error (.value m))
      ∧ ∀ document, (readDocument options cs).result = .ok document →
          ∃ rest metadata,
            document = .group .document (blocksOf options rest) metadata
            ∧ keptBlock metadata ++ rest = cs
            ∧ ∀ f, frontMatterOf? options cs = some f → Yaml.load f.body = .error .malformed →
                metadata = [(.str "frontmatter", .str (String.ofList f.raw))] := by
  cases outcome : readPreamble options cs with
  | error m =>
      rw [readDocument_of_error outcome]
      refine ⟨fun p => ?_, nofun⟩
      constructor
      · rintro ⟨⟩
        exact ⟨m, rfl, readPreamble_error.mp outcome⟩
      · rintro ⟨m', rfl, failed⟩
        obtain rfl := Except.error.inj (outcome.symm.trans (readPreamble_error.mpr failed))
        rfl
  | ok preamble =>
      rw [readDocument_of_preamble outcome]
      refine ⟨fun p => ?_, ?_⟩
      · constructor
        · nofun
        · rintro ⟨m, -, failed⟩
          cases outcome.symm.trans (readPreamble_error.mpr failed)
      · rintro _ ⟨⟩
        refine ⟨preamble.rest, preamble.metadata, rfl, keptBlock_append_rest outcome, ?_⟩
        intro f found malformed
        exact readPreamble_malformed found malformed outcome

/-- A date in a thirteenth month in the front matter stops the reader outside the errors of the
library. -/
theorem date_in_front_matter_fails_outside
    : ¬ ∀ (options : ReaderOptions) (cs : Chars) (p : Problem),
        (readDocument options cs).result = .error p → ∃ e, p = .own e := by
  intro inside
  let cs := "---\na: 2024-13-45\n---\n".toList
  have found : frontMatterOf? {} cs = some ⟨cs, "a: 2024-13-45\n".toList, []⟩ := by decide +kernel
  have refused : Yaml.load "a: 2024-13-45\n".toList
      = .error (.value (.badValue "month must be in 1..12")) :=
    error_of_failure? (by decide +kernel)
  have failed := readDocument_of_error (readPreamble_error.mpr ⟨_, found, refused⟩)
  obtain ⟨e, own⟩ := inside _ _ _ failed
  cases own

end MixedScript
