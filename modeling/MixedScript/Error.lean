/-!
Errors of the library. An error has a category, a message and a few named details; categories form a tree,
and the exit code of the command line follows from the ancestors of a category. What fails outside the
library's own checks (a wrong type, an unreadable file) is a mishap.
-/

namespace MixedScript

/-- What an error is about. -/
inductive Category where
  /-- Any error of the library. -/
  | general
  /-- An invalid parameter, option or configuration value. -/
  | validation
  /-- Options of the wrong kind for a component. -/
  | wrongOptions
  /-- Trouble with a file. -/
  | file
  /-- A file that does not exist. -/
  | missingFile
  /-- A file that exists but cannot be read. -/
  | fileAccess
  /-- A source that could not be turned into a tree. -/
  | parsing
  /-- A tree that could not be written as text. -/
  | rendering
  /-- A text that could not be written to its destination. -/
  | outputWrite
  /-- A tree that could not be transformed. -/
  | transform
  /-- A tree without the expected structure. -/
  | malformedTree
  /-- A container without children where a leaf is looked for. -/
  | emptyContainer
  /-- A spacing rule that broke its contract. -/
  | collaborator
  /-- A package that is missing or too old. -/
  | dependency
  deriving DecidableEq, Repr

namespace Category

/-- The next more general category. -/
def parent? : Category → Option Category
  | general => none
  | wrongOptions => some validation
  | missingFile | fileAccess => some file
  | outputWrite => some rendering
  | malformedTree | collaborator => some transform
  | emptyContainer => some malformedTree
  | _ => some general

/-- A category and its ancestors up to the given number of steps, itself first. -/
def ancestorsWithin : Nat → Category → List Category
  | 0, c => [c]
  | steps + 1, c =>
    match c.parent? with
    | none => [c]
    | some p => c :: ancestorsWithin steps p

/-- A category and all its ancestors, itself first. -/
def ancestors (c : Category) : List Category :=
  ancestorsWithin 3 c

def ownExitCode? : Category → Option Nat
  | dependency => some 2
  | validation => some 3
  | file => some 4
  | parsing => some 6
  | rendering => some 7
  | transform => some 8
  | _ => none

/-- The exit code of the nearest ancestor that has one, else 1. -/
def exitCode (c : Category) : Nat :=
  (c.ancestors.findSome? ownExitCode?).getD 1

end Category

/-- Names of the details of an error. -/
inductive Aspect where
  /-- The invalid parameter. -/
  | parameter
  /-- The stage at which parsing failed. -/
  | parsingStage
  /-- The stage at which rendering failed. -/
  | renderingStage
  /-- The transform that failed. -/
  | transform
  /-- The spacing rule that broke its contract. -/
  | collaborator
  /-- The kind of an empty container. -/
  | nodeType
  /-- The side from which a leaf was looked for. -/
  | direction
  /-- The component that was given the wrong thing. -/
  | component
  deriving DecidableEq, Repr

/-- An error of the library. -/
structure Error where
  /-- What the error is about. -/
  category : Category
  /-- The text for the user. -/
  message : String
  /-- Named details. -/
  details : List (Aspect × String) := []
  deriving DecidableEq, Repr

namespace Error

/-- The exit code of the command line for an error. -/
def exitCode (e : Error) : Nat :=
  e.category.exitCode

/-- An invalid value, with the parameter that holds it. -/
def invalid (message : String) (parameter : Option String := none) : Error :=
  ⟨.validation, message, parameter.toList.map (fun p => (.parameter, p))⟩

/-- Options of one kind where another was expected. -/
def wrongOptions (component expected received : String) (message : Option String := none) : Error :=
  ⟨.wrongOptions,
    message.getD (component ++ " expected options of type '" ++ expected ++ "' but received '" ++ received ++ "'."),
    [(.parameter, "options"), (.component, component)]⟩

/-- A file that does not exist. -/
def missingFile (path : String) (message : Option String := none) : Error :=
  ⟨.missingFile, message.getD ("File not found: " ++ path), []⟩

/-- A file that exists but cannot be read. -/
def fileAccess (path : String) (message : Option String := none) : Error :=
  ⟨.fileAccess, message.getD ("Cannot access file: " ++ path), []⟩

/-- A source that could not be turned into a tree, with the stage that failed. -/
def parsing (message : String) (stage : Option String := none) : Error :=
  ⟨.parsing, message, stage.toList.map (fun s => (.parsingStage, s))⟩

/-- A tree that could not be written as text, with the stage that failed. -/
def rendering (message : String) (stage : Option String := none) : Error :=
  ⟨.rendering, message, stage.toList.map (fun s => (.renderingStage, s))⟩

/-- A text that could not be written to its destination. -/
def outputWrite (message : String) : Error :=
  ⟨.outputWrite, message, [(.renderingStage, "write")]⟩

/-- A container without children where a leaf was looked for from one side. -/
def emptyContainer (nodeType : String) (direction : String := "first") : Error :=
  ⟨.emptyContainer, "Cannot locate " ++ direction ++ " leaf: " ++ nodeType ++ " container has no children",
    [(.nodeType, nodeType), (.direction, direction)]⟩

/-- A spacing rule that broke its contract. -/
def collaborator (message : String) (rule : Option String := none) : Error :=
  ⟨.collaborator, message, (.transform, "spacing") :: rule.toList.map (fun r => (.collaborator, r))⟩

end Error

/-- A failure outside the library's own checks. -/
inductive Mishap where
  /-- A value of a type that an operation does not take. -/
  | illTyped
  /-- A value outside the range of an operation, with the text that says so. -/
  | badValue (message : String)
  /-- Bytes that are no text in an encoding. -/
  | undecodable
  /-- A text that an encoding cannot hold. -/
  | unencodable
  /-- A name that is no encoding. -/
  | unknownEncoding
  /-- A directory where a file is needed. -/
  | isDirectory
  /-- A path that leads nowhere. -/
  | noSuchFile
  /-- A path through something that is no directory. -/
  | notDirectory
  /-- A file that may not be read. -/
  | notPermitted
  /-- A value without the member that is asked for. -/
  | missingMember
  /-- A table without the entry that is asked for. -/
  | missingEntry
  /-- A sequence without the item that is asked for. -/
  | missingItem
  /-- A text that is no version of a package. -/
  | notVersion
  /-- Nesting beyond what a reader can follow. -/
  | tooDeep
  /-- A module that cannot be loaded, with the text that says so. -/
  | importFailed (message : String)
  deriving DecidableEq, Repr

/-- Why a text cannot be read as a document of plain data. -/
inductive Refusal where
  /-- It does not have the form of one. -/
  | malformed
  /-- A part of it has the form of a value and yet stands for none. -/
  | value (m : Mishap)
  deriving DecidableEq, Repr

/-- What has been read, where nothing stands for a text of another form. -/
def Refusal.ofForm {α : Type} (x : Option α) : Except Refusal α :=
  x.elim (.error .malformed) .ok

/-- Whatever can end an operation early. -/
inductive Problem where
  /-- An error of the library. -/
  | own (e : Error)
  /-- A failure outside the library's own checks. -/
  | outside (m : Mishap)
  deriving DecidableEq, Repr

/-- The exit code that belongs to a problem, whether or not the command line handles it. -/
def Problem.exitCode : Problem → Nat
  | .own e => e.exitCode
  | .outside (.importFailed _) => 2
  | .outside _ => 1

end MixedScript
