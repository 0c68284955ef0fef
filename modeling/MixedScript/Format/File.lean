import MixedScript.Format
import MixedScript.Input
import MixedScript.Output

/-!
Formatting a file. It is read in the encoding that it turns out to be in, its line ends are kept, and if the text
has changed it can be written back in the same encoding.
-/

namespace MixedScript

structure FormattedFile where
  /-- The path of the file, as given. -/
  path : String
  /-- The text that was read. -/
  source : Chars
  /-- The formatted text. -/
  text : Chars
  /-- The number of spaces put between nodes. -/
  inserted : Nat
  /-- The encoding of the file. -/
  encoding : String
  deriving DecidableEq, Repr

def FormattedFile.changed (f : FormattedFile) : Bool :=
  f.source != f.text

/-- A text with the line ends of a source: where the source has pairs of carriage return and line feed, every
line feed of the text becomes such a pair. -/
def withLineEndsOf (source text : Chars) : Chars :=
  if Chars.occursIn ['\r', '\n'] source then Chars.replaceChar '\n' ['\r', '\n'] text else text

def formatFile (s : Surroundings) (options : FormatOptions) (path : String) : Work FormattedFile := do
  let shown := Path.plain path
  let bs ← readFile s path
  let decoded ← decodeInput s ("Cannot decode " ++ shown) bs
  Work.tell (.debug .formatter ("Read " ++ shown ++ " as " ++ decoded.encoding))
  let formatted ← formatText options decoded.text
  return ⟨path, decoded.text, withLineEndsOf decoded.text formatted.text, formatted.inserted, decoded.encoding⟩

/-- The tree of files with a formatted file written back, if it has changed. -/
def FormattedFile.save (s : Surroundings) (f : FormattedFile) : Files × Work Unit :=
  if f.changed then
    match s.files.save s.codecs (Path.resolve s.current f.path) f.encoding f.text with
    | (tree, some _) => (tree, .fail .unwritable)
    | (tree, none) => (tree, Work.tell ⟨.info, .formatter, "Reformatted " ++ Path.plain f.path⟩)
  else (s.files, return ())

end MixedScript
