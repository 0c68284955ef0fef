import MixedScript.Journal
import MixedScript.Markdown.Reader
import MixedScript.Markdown.Writer
import MixedScript.Spacing.Transform

/-!
Formatting a text: it is read as a document, the document is spaced, and the result is written.
-/

namespace MixedScript

/-- What is told when a stage of the work is complete. Time is not measured. -/
def stageDone (stage : String) : Entry :=
  .debug .formatter (stage ++ " completed in 0.00s")

/-- The document of a source. -/
def readDocument (options : ReaderOptions) (cs : Chars) : Work Node :=
  match Markdown.read options cs with
  | .ok (document, journal) => .of journal (.ok document)
  | .error m => .of [] (.error (.outside m))

/-- What is told of a space that has been put between two nodes. -/
def Spacing.Splice.entry (s : Spacing.Splice) : Entry :=
  .debug .spacing
    ("Inserted space in " ++ s.container.name ++ " between " ++ s.left.name ++ " and " ++ s.right.name)

/-- A document with its spacing in order, and the number of spaces put between nodes. -/
def spaceDocument (options : SpacingOptions) (document : Node) : Work (Node × Nat) :=
  let run := Spacing.format Spacing.Rules.standard options document
  .of (run.splices.map Spacing.Splice.entry)
    (match run.fault with
      | some f => .error (.own f.toError)
      | none => .ok (run.result, run.splices.length))

/-- The text of a document. -/
def writeDocument (options : WriterOptions) (document : Node) : Work Chars :=
  .of [] ((Markdown.write options document).mapError (fun f => .own f.toError))

/-- A text with its spacing in order. -/
structure Formatted where
  text : Chars
  /-- The number of spaces put between nodes. -/
  inserted : Nat
  deriving DecidableEq, Repr

/-- A source, formatted. -/
def formatText (options : FormatOptions) (cs : Chars) : Work Formatted := do
  let document ← readDocument options.reader cs
  Work.tell (stageDone "Parsing (markdown)")
  let (spaced, inserted) ← spaceDocument options.spacing document
  Work.tell (stageDone "Spacing transform")
  Work.tell (.debug .formatter ("Inserted " ++ showNat inserted ++ " boundary space(s)"))
  let text ← writeDocument options.writer spaced
  Work.tell (stageDone "Rendering (markdown)")
  return ⟨text, inserted⟩

end MixedScript
