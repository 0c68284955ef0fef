import MixedScript.Command.Arguments
import MixedScript.Output

/-!
The console of a run: the standard streams and the files, and how the journal is shown on it. What is severe
enough is told on the stream for errors, and in full in a log file if there is one.
-/

namespace MixedScript.Command

/-- When an entry of the journal is told, and its number. -/
structure Stamp where
  time : String
  number : String

/-- How the journal is shown. -/
structure Logging where
  /-- The least level that is shown. -/
  level : Nat
  /-- Whether entries are shown in full. -/
  full : Bool
  /-- The file that gets a copy. -/
  file : Option Path := none

/-- The streams and files of a run. -/
structure Console where
  files : Files
  /-- What can still be read from the standard input. -/
  input : Encoding.Bytes
  /-- What has been printed. -/
  output : String := ""
  /-- What has been printed on the stream for errors. -/
  errors : String := ""
  /-- The number of entries that have been told. -/
  told : Nat := 0

def shortLine (e : Entry) : String :=
  "cjkfmt: " ++ e.severity.name ++ ": " ++ e.text ++ "\n"

def fullLine (stamp : Stamp) (e : Entry) : String :=
  "[" ++ stamp.time ++ "] [" ++ e.severity.name ++ "] [" ++ e.origin.name ++ ":" ++ stamp.number ++ "] " ++
    e.text ++ "\n"

/-- The files with a line added to one of them, if it can be written. -/
def appendLine (f : Files) (p : Path) (line : String) : Files :=
  match f.write p (f.content p ++ Encoding.Utf8.encode line.toList) with
  | .ok f => f
  | .error _ => f

namespace Console

/-- The console with a text printed. -/
def print (c : Console) (cs : Chars) : Console :=
  { c with output := c.output ++ String.ofList cs }

/-- The console with a line printed for errors. -/
def complain (c : Console) (line : String) : Console :=
  { c with errors := c.errors ++ line ++ "\n" }

/-- The console with an entry told, if it is severe enough. -/
def tell (l : Logging) (stamp : Nat → Stamp) (c : Console) (e : Entry) : Console :=
  if e.severity.level < l.level then c
  else
    let full := fullLine (stamp c.told) e
    { c with
      files := match l.file with
        | some p => appendLine c.files p full
        | none => c.files
      errors := c.errors ++ (if l.full then full else shortLine e)
      told := c.told + 1 }

/-- The console with all told that a piece of work has to tell. -/
def tellAll (l : Logging) (stamp : Nat → Stamp) (c : Console) (j : Journal) : Console :=
  j.foldl (tell l stamp) c

end Console

/-- A failure of the file system in words. -/
def systemText (m : Mishap) (p : Path) : String :=
  let what := match m with
    | .isDirectory => "[Errno 21] Is a directory"
    | .notDirectory => "[Errno 20] Not a directory"
    | _ => "[Errno 2] No such file or directory"
  what ++ ": " ++ String.ofList (Text.quoted p.shown.toList)

/-- How the journal is shown when the user has asked for something, with the log file opened. Without the file the
run goes on. -/
def startLogging (a : Arguments) (current : Path) (stamp : Nat → Stamp) (c : Console) : Logging × Console :=
  let plain : Logging := ⟨(if a.trace then Severity.debug else a.severity).level, a.trace, none⟩
  match a.logFile.filter (!·.isEmpty) with
  | none => (plain, c)
  | some name =>
    let place := Path.resolve current name
    match c.files.write place (c.files.content place) with
    | .error m =>
      (plain, c.tell plain stamp
        ⟨.warning, .program, "Could not open log file " ++ name ++ ": " ++ systemText m place⟩)
    | .ok files =>
      let logging := { plain with file := some place }
      (logging, Console.tell logging stamp { c with files := files } (.debug .program ("Logging to file: " ++ name)))

end MixedScript.Command
