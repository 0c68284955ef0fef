import MixedScript.Command.Arguments
import MixedScript.Settings.Discovery
import MixedScript.Settings.Mapping

/-!
What a run works on: its options, and its inputs. A directory stands for the Markdown files below it.
-/

namespace MixedScript.Command

/-- The name that stands for the standard input. -/
def standardInput : String := "-"

/-- The endings of the names of Markdown files. -/
def markdownEndings : List String := [".md", ".markdown", ".mdown", ".mkd", ".mkdn"]

/-- Whether a file is a Markdown file by its name. -/
def isMarkdown (p : Path) : Bool :=
  markdownEndings.contains (Settings.lowercase (Path.suffix (p.getLast?.getD "")))

/-- The Markdown files below a directory, as paths that continue the written one. -/
def markdownBelow (s : Surroundings) (written : String) : List String :=
  let place := Path.resolve s.current written
  ((s.files.below place).filter isMarkdown).map (fun p => (p.drop place.length).foldl Path.child written)

/-- The inputs that a path stands for. -/
def inputsOf (s : Surroundings) (written : String) : Work (List String) :=
  let place := Path.resolve s.current written
  if written == standardInput then return [written]
  else if s.files.isDirectory place then do
    let found := markdownBelow s written
    Work.tell (.debug .command
      ("Found " ++ showNat found.length ++ " markdown file(s) in " ++ Path.plain written))
    return found
  else if s.files.holds place then return [written]
  else .fail (.missingFile written)

/-- The inputs that paths stand for. -/
def collectInputs (s : Surroundings) : List String → Work (List String)
  | [] => return []
  | written :: rest => do
    let inputs ← inputsOf s written
    return inputs ++ (← collectInputs s rest)

/-- The options of a run: those of the configuration, and over them those of the arguments. -/
def loadOptions (s : Surroundings) (environment : Option String) (a : Arguments) : Work FormatOptions := do
  let config ← if a.noConfig then pure [] else Settings.loadConfig s a.config environment s.current
  .of [] (Settings.optionsOf (Mapping.merge config a.overrides))

end MixedScript.Command
