import MixedScript.Command.Run
import MixedScript.Encoding.OneByte
import Std.Time.DateTime
import Std.Time.Format

/-!
The command line program. It looks at the files that a run may touch, leaves the run to the library, and carries
out what the run has come to.
-/

namespace MixedScript.Command

/-- What stands at a place. The content of a file counts only where it is needed. -/
def lookAt (place : Path) (needed : Bool := true) : IO Files := do
  let p := (← IO.currentDir) / place.shown
  if ← p.isDir then return { entries := [(place, none)] }
  else if !(← p.pathExists) then return {}
  else if !needed then return { entries := [(place, some [])] }
  else
    try
      return { entries := [(place, some (← IO.FS.readBinFile p).toList)] }
    catch _ => return { entries := [(place, some [])], locked := [place] }

/-- What either of two looks has found. -/
def both (f g : Files) : Files :=
  ⟨f.entries ++ g.entries, f.locked ++ g.locked⟩

/-- What stands at a place and below it. -/
def lookBelow (place : Path) : IO Files := do
  let p := (← IO.currentDir) / place.shown
  if ← p.isDir then
    let mut found : Files := { entries := [(place, none)] }
    for q in ← p.walkDir do
      let inner := Path.names q.toString
      found := both (← lookAt inner (isMarkdown inner)) found
    return found
  else lookAt place

/-- The files that a run may touch: its inputs, the configurations that may count, and the log file. -/
def lookAround (a : Arguments) (environment : Option String) (current home : Path) : IO Files := do
  let mut found : Files := { entries := [(current, none)] }
  for written in a.paths do
    if written != standardInput then found := both (← lookBelow (Path.resolve current written)) found
  for directory in home :: Settings.directoriesFrom current do
    for name in Settings.projectFileName :: Settings.configFileNames do
      found := both (← lookAt (directory ++ [name])) found
  for written in a.config.toList ++ environment.toList ++ a.logFile.toList do
    let place := Path.resolve current written
    found := both (both (← lookAt place) (← lookAt place.dropLast false)) found
  return { found with entries := found.entries.eraseDupsBy (fun a b => a.1 == b.1) }

/-- Writes the files that have changed. -/
def writeBack (before after : Files) : IO Unit := do
  for (place, content) in after.entries do
    match content with
    | none => pure ()
    | some bs =>
      if before.entry? place != some (some bs) then
        IO.FS.writeBinFile place.shown (ByteArray.mk bs.toArray)

/-- Whether a run reads the standard input. -/
def needsInput (a : Arguments) : Bool :=
  a.paths.isEmpty || a.paths.contains standardInput

def runProgram (arguments : List String) : IO UInt32 := do
  let now ← Std.Time.PlainDateTime.now
  let time := now.format "uuuu-MM-dd HH:mm:ss"
  let current := Path.names (← IO.currentDir).toString
  let home := Path.names ((← IO.getEnv "HOME").getD "/")
  let environment ← IO.getEnv "CJKFMT_CONFIG"
  let asked := Arguments.parse arguments
  let files ← match asked with
    | .ok a => lookAround a environment current home
    | .error _ => pure {}
  let input ← if asked.toOption.any needsInput then (← IO.getStdin).readBinToEnd else pure ByteArray.empty
  let outcome := run
    { arguments := arguments
      surroundings := ⟨files, current, home, fun _ => none, Encoding.oneByteCodecs⟩
      environment := environment
      input := input.toList
      stamp := fun n => ⟨time, showNat (n + 1)⟩ }
  writeBack files outcome.console.files
  (← IO.getStdout).putStr outcome.console.output
  (← IO.getStderr).putStr outcome.console.errors
  match outcome.exit with
  | .ok code => return code.toUInt32
  | .error _ => do
    (← IO.getStderr).putStrLn "cjkfmt: the run has failed"
    return 1

end MixedScript.Command

/-- The program. -/
def main (arguments : List String) : IO UInt32 :=
  MixedScript.Command.runProgram arguments
