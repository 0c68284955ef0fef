import MixedScript.Command.Console
import MixedScript.Command.Inputs
import MixedScript.Difference
import MixedScript.Format.File

/-!
One input of a run: it is read and formatted, and then the mode decides what is done with it.
-/

namespace MixedScript.Command

/-- An input that has been formatted. -/
inductive Item where
  /-- The standard input, with its formatted text. -/
  | stream (source text : Chars)
  | file (f : FormattedFile)

namespace Item

/-- The name of an input. -/
def name : Item → String
  | stream _ _ => standardInput
  | file f => f.path

/-- The text that was read. -/
def source : Item → Chars
  | stream source _ => source
  | file f => f.source

/-- The formatted text. -/
def text : Item → Chars
  | stream _ text => text
  | file f => f.text

/-- Whether formatting has changed an input. -/
def changed (i : Item) : Bool :=
  i.source != i.text

end Item

/-- What is done with a formatted input. -/
inductive Action where
  /-- Nothing. -/
  | none
  /-- It is told that the input would change. -/
  | announce
  /-- The difference is printed. -/
  | showDifference
  /-- The formatted text is printed. -/
  | print
  /-- The formatted text is written back to the file. -/
  | save (f : FormattedFile)

/-- What a mode does with a formatted input. Only what has changed is announced, compared or written back. -/
def Mode.action (m : Mode) (i : Item) : Action :=
  match m, i with
  | .print, _ => .print
  | .check, _ => if i.changed then .announce else .none
  | .diff, _ => if i.changed then .showDifference else .none
  | .write, .stream _ _ => .print
  | .write, .file f => if f.changed then .save f else .none

/-- What a run has to do with: where it takes place, and how the journal is shown. -/
structure Setting where
  /-- Where the run takes place. Its files are those at the start. -/
  surroundings : Surroundings
  /-- How the journal is shown. -/
  logging : Logging
  /-- When entries of the journal are told. -/
  stamp : Nat → Stamp

namespace Setting

/-- Where a run takes place with its files as they are now. -/
def now (s : Setting) (c : Console) : Surroundings :=
  { s.surroundings with files := c.files }

/-- The console after a piece of work, and the result of the work. -/
def follow {α : Type} (s : Setting) (c : Console) (w : Work α) : Console × Except Problem α :=
  (c.tellAll s.logging s.stamp w.journal, w.result)

end Setting

/-- The standard input, formatted. -/
def formatStream (s : Surroundings) (options : FormatOptions) (bs : Encoding.Bytes) : Work Item := do
  let source := (← decodeInput s "Cannot decode standard input" bs).text
  return .stream source (← formatText options source).text

/-- An input, formatted, and the console after that. The standard input can be read once. -/
def formatItem (s : Setting) (options : FormatOptions) (c : Console) (input : String) : Console × Except Problem Item :=
  if input == standardInput then
    s.follow { c with input := [] } (formatStream (s.now c) options c.input)
  else s.follow c (do return .file (← formatFile (s.now c) options input))

/-- The console after an action on an input. -/
def perform (s : Setting) (c : Console) (i : Item) : Action → Console × Except Problem Unit
  | .none => (c, .ok ())
  | .announce => (c.complain ("would reformat " ++ i.name), .ok ())
  | .showDifference =>
    (c.print (Difference.unified (i.name ++ "\t(original)") (i.name ++ "\t(formatted)")
      (Chars.linesWithEnds i.source) (Chars.linesWithEnds i.text)), .ok ())
  | .print => (c.print i.text, .ok ())
  | .save f =>
    let (files, saved) := f.save (s.now c)
    s.follow { c with files := files } saved

/-- The console after an input, and whether formatting has changed it. -/
def processItem (s : Setting) (options : FormatOptions) (m : Mode) (c : Console) (input : String) :
    Console × Except Problem Bool :=
  match formatItem s options c input with
  | (c, .error p) => (c, .error p)
  | (c, .ok item) =>
    match perform s c item (m.action item) with
    | (c, .error p) => (c, .error p)
    | (c, .ok _) => (c, .ok item.changed)

end MixedScript.Command
