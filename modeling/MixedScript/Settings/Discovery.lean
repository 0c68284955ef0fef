import MixedScript.Settings.ConfigFile

/-!
Where the configuration of a run comes from. A file named by the user counts before one that the environment
names, and both before one that is found: in the directory of the run, in the directories above it, and in the
end in the home directory.
-/

namespace MixedScript.Settings

/-- The names of files that hold nothing but a configuration, in the order in which they count. -/
def configFileNames : List String := [".cjkfmt.toml", ".cjkfmt.yaml", ".cjkfmt.yml", ".cjkfmt.json"]

/-- The first file in a directory that holds nothing but a configuration. -/
def ownConfigIn? (s : Surroundings) (directory : Path) : Option Path :=
  (configFileNames.map (fun name => directory ++ [name])).find? s.files.isFile

/-- The file of a project in a directory, if it configures the program. One that cannot be read is passed over. -/
def projectConfigIn (s : Surroundings) (directory : Path) : Work (Option Path) :=
  let place := directory ++ [projectFileName]
  if s.files.isFile place then
    match loadConfigFile s place.shown with
    | .ok table => return if table.isEmpty then none else some place
    | .error (.own e) => .of [.debug .settings ("Skipping unreadable " ++ place.shown ++ ": " ++ e.message)] (.ok none)
    | .error p => .of [] (.error p)
  else return none

/-- The first configuration file in directories. -/
def findConfigIn (s : Surroundings) : List Path → Work (Option Path)
  | [] => return none
  | directory :: rest =>
    match ownConfigIn? s directory with
    | some place => return some place
    | none => do
      match ← projectConfigIn s directory with
      | some place => return some place
      | none => findConfigIn s rest

/-- A directory and those above it, from the inside. -/
def directoriesFrom (p : Path) : List Path :=
  (List.range (p.length + 1)).reverse.map p.take

/-- The configuration file for a run in a directory. -/
def discoverConfig (s : Surroundings) (start : Path) : Work (Option Path) := do
  match ← findConfigIn s (directoriesFrom start) with
  | some place => return some place
  | none => return ownConfigIn? s s.home

/-- The configuration of a run: from the file that the user names, from the one that the environment names, or
from the one that is found. A name that is empty is none. -/
def loadConfig (s : Surroundings) (named environment : Option String) (start : Path) : Work Mapping :=
  match (named.filter (!·.isEmpty)).orElse (fun _ => environment.filter (!·.isEmpty)) with
  | some path => .of [] (loadConfigFile s path)
  | none => do
    match ← discoverConfig s start with
    | none => return []
    | some place =>
      Work.tell (.debug .settings ("Using configuration from " ++ place.shown))
      .of [] (loadConfigFile s place.shown)

end MixedScript.Settings
