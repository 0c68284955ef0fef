import MixedScript.Format
import MixedScript.Proofs.Result
import MixedScript.Proofs.Spacing.Visible

/-! What a reader sees of a document, and what formatting does to it. Spacing keeps all of it in
every document, so a source loses content only where the text that is written for the spaced document
is not read back as what was written. -/

namespace MixedScript

open Spacing

/-- A piece of the content of a document. -/
inductive Atom where
  /-- A character of a text. Texts next to each other read on from one to the other. -/
  | char (c : Char)
  /-- Math source without its whitespace. -/
  | math (form : MathForm) (source : Chars)
  /-- A leaf with its exact content. -/
  | verbatim (kind : Kind) (content : Chars)
  /-- Any other leaf. -/
  | leaf (kind : Kind)
  deriving DecidableEq, Repr

/-- A text without one line feed at its end. -/
def dropFinalNewline (cs : Chars) : Chars :=
  if cs.getLast? = some '\n' then cs.dropLast else cs

/-- The content of a leaf. Spaces and tabs of texts and the ends of lines do not count. -/
def Node.atoms : Node → List Atom
  | .text s _ => (visible s).map .char
  | .math form s _ => [.math form (dense s)]
  | .code s _ => [.verbatim .code s]
  | .inert (.codeBlock s _) _ => [.verbatim .codeBlock (dropFinalNewline s)]
  | .inert (.htmlBlock s) _ => [.verbatim .htmlBlock s]
  | .inert (.htmlInline s) _ => [.verbatim .htmlInline s]
  | .inert (.lineBreak _) _ => []
  | n => [.leaf n.kind]

/-- The content of a tree in document order. -/
def Node.content (n : Node) : List Atom :=
  n.leaves.flatMap Node.atoms

theorem atoms_of_sameVisible {n d : Node} (h : SameVisible n d)
    : d.atoms = n.atoms := by
  cases h with
  | text same => simp only [Node.atoms, same]
  | math same => simp only [Node.atoms, same]
  | refl => rfl

/-- Trees that differ in whitespace alone have the same content. -/
theorem content_of_keepsVisible {n d : Node} (h : KeepsVisible n d)
    : d.content = n.content :=
  flatMap_leaves_of_keepsVisible atoms_of_sameVisible rfl h

/-- Spacing keeps the content of every tree, even where it is stopped. -/
theorem content_format (options : SpacingOptions) (tree : Node)
    : (Spacing.format .standard options tree).result.content = tree.content :=
  content_of_keepsVisible (formatNode_keepsVisible options tree)

-----------------------------------------------------------------------------------------
-- Stages
-----------------------------------------------------------------------------------------

variable {options : FormatOptions} {cs : Chars} {f : Formatted} {document : Node}

/-- A source that is formatted has passed all stages. -/
theorem formatText_ok (h : (formatText options cs).result = .ok f)
    : ∃ document spaced,
        (readDocument options.reader cs).result = .ok document
        ∧ (spaceDocument options.spacing document).result = .ok (spaced, f.inserted)
        ∧ (writeDocument options.writer spaced).result = .ok f.text := by
  obtain ⟨document, read, h⟩ := Work.bind_eq_ok.mp h
  obtain ⟨_, -, h⟩ := Work.bind_eq_ok.mp h
  obtain ⟨⟨spaced, inserted⟩, space, h⟩ := Work.bind_eq_ok.mp h
  obtain ⟨_, -, h⟩ := Work.bind_eq_ok.mp h
  obtain ⟨_, -, h⟩ := Work.bind_eq_ok.mp h
  obtain ⟨text, written, h⟩ := Work.bind_eq_ok.mp h
  obtain ⟨_, -, h⟩ := Work.bind_eq_ok.mp h
  obtain rfl := Except.ok.inj h
  exact ⟨document, spaced, read, space, written⟩

/-- A document that has been spaced has its content. -/
theorem spaceDocument_ok {options : SpacingOptions} {spaced : Node} {inserted : Nat}
    (h : (spaceDocument options document).result = .ok (spaced, inserted))
    : spaced.content = document.content := by
  simp only [spaceDocument, Work.of] at h
  split at h
  · contradiction
  · obtain rfl := (Prod.mk.inj (Except.ok.inj h)).1
    exact content_format options document

/-- A source that is formatted keeps its content up to where it is written: what its text is written for is a
document with all the content of the source. -/
theorem format_keeps_content (formatted : (formatText options cs).result = .ok f)
    (read : (readDocument options.reader cs).result = .ok document)
    : ∃ spaced,
        (spaceDocument options.spacing document).result = .ok (spaced, f.inserted)
        ∧ spaced.content = document.content
        ∧ (writeDocument options.writer spaced).result = .ok f.text := by
  obtain ⟨document', spaced, read', space, written⟩ := formatText_ok formatted
  obtain rfl := Except.ok.inj (read'.symm.trans read)
  exact ⟨spaced, space, spaceDocument_ok space, written⟩

/-- A text is read as a document of some content. -/
def ReadsAs (options : ReaderOptions) (text : Chars) (content : List Atom) : Prop :=
  ∃ document, (readDocument options text).result = .ok document ∧ document.content = content

/-- What is read is decided by computing it. -/
theorem readsAs_iff {options : ReaderOptions} {content : List Atom}
    : ReadsAs options cs content
      ↔ (readDocument options cs).result.toOption.map Node.content = some content := by
  unfold ReadsAs
  cases (readDocument options cs).result <;> simp [Except.toOption]

/-- An escaped angle bracket is written bare: a text that shows a tag is read back as the tag. -/
theorem escaped_tag_becomes_tag
    : ¬ ∀ cs f document,
        (formatText {} cs).result = .ok f → (readDocument {} cs).result = .ok document →
        ReadsAs {} f.text document.content := by
  intro keeps
  have formatted : (formatText {} ['a', '\\', '<', 'b', '>', 'c']).result
      = .ok ⟨['a', '<', 'b', '>', 'c', '\n'], 0⟩ :=
    ok_of_toOption (by decide +kernel)
  have reads : ReadsAs {} ['a', '\\', '<', 'b', '>', 'c']
      [.char 'a', .char '<', .char 'b', .char '>', .char 'c'] :=
    readsAs_iff.mpr (by decide +kernel)
  obtain ⟨document, read, content⟩ := reads
  have kept := keeps _ _ _ formatted read
  rw [content, readsAs_iff] at kept
  exact absurd kept (by decide +kernel)

/-- An escaped number sign that ends a heading is written bare: formatting the text again drops
it. -/
theorem heading_end_lost_on_second_format
    : ¬ ∀ cs f, (formatText {} cs).result = .ok f →
        ∃ g, (formatText {} f.text).result = .ok g ∧ g.text = f.text := by
  intro idempotent
  have first : (formatText {} ['#', ' ', 'a', ' ', '\\', '#']).result
      = .ok ⟨['#', ' ', 'a', ' ', '#', '\n'], 0⟩ :=
    ok_of_toOption (by decide +kernel)
  have second : (formatText {} ['#', ' ', 'a', ' ', '#', '\n']).result
      = .ok ⟨['#', ' ', 'a', '\n'], 0⟩ :=
    ok_of_toOption (by decide +kernel)
  obtain ⟨g, again, same⟩ := idempotent _ _ first
  obtain rfl := Except.ok.inj (second.symm.trans again)
  exact absurd same (by decide)

end MixedScript
