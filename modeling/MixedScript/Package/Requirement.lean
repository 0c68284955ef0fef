import MixedScript.Error
import MixedScript.Package.Specifier
import MixedScript.Text.Quoted

/-!
Requirements of a component: packages that have to be there, in versions that meet conditions.
-/

namespace MixedScript.Package

/-- A package that a component needs. -/
structure Requirement where
  /-- The name under which the package is installed. -/
  package : String
  /-- The name of the module that it provides. -/
  module : String
  /-- The condition on its version; empty for none. -/
  condition : String
  deriving DecidableEq, Repr

/-- What is installed. -/
structure Installation where
  /-- The modules that can be loaded. -/
  modules : List String
  /-- The versions of the packages. -/
  versions : List (String × String)

/-- What was found of a requirement that is not met. -/
structure Shortfall where
  /-- The name of the package. -/
  package : String
  /-- The condition on its version. -/
  condition : String
  /-- The version that is installed; nothing if the package is missing. -/
  installed : Option String
  deriving DecidableEq, Repr

/-- Whether a version that is installed meets a condition. What is not installed meets none. -/
def checkVersion (package : String) (installed : Option String) (condition : String) :
    Except Mishap (Bool × Option String) :=
  match installed.filter (!·.isEmpty) with
  | none => .ok (false, none)
  | some version =>
    match Specifier.parseAll? condition.toList with
    | none => .error (.badValue
        ("Invalid version specifier for " ++ package ++ ": " ++ String.ofList (Text.quoted condition.toList)))
    | some conditions =>
      match Version.ofText? version with
      | none => .error .notVersion
      | some v => .ok (conditions.all (·.admits v), some version)

/-- What a requirement falls short of. -/
def Requirement.check (i : Installation) (r : Requirement) : Except Mishap (Option Shortfall) :=
  if !i.modules.contains r.module then .ok (some ⟨r.package, r.condition, none⟩)
  else if r.condition.isEmpty then .ok none
  else do
    let (met, installed) ← checkVersion r.package (i.versions.lookup r.package) r.condition
    return if met then none else some ⟨r.package, r.condition, some (installed.getD "unknown")⟩

/-- The text of a package with the condition on its version in quotes. -/
def quotedPackage (quote name condition : String) : String :=
  quote ++ name ++ condition ++ quote

/-- The message for a component whose requirements are not met. -/
def shortfallMessage (component : String) (missing mismatched : List Shortfall) : String :=
  let needs := ", ".intercalate (missing.map (fun s => quotedPackage "'" s.package s.condition))
  let differs := ", ".intercalate (mismatched.map (fun s =>
    "'" ++ s.package ++ "' (requires " ++ s.condition ++ ", but " ++ s.installed.getD "" ++ " is installed)"))
  let first := if missing.isEmpty then [] else [component ++ " requires the following packages: " ++ needs]
  let second := if mismatched.isEmpty then [] else [component ++ " has version mismatches: " ++ differs]
  let all := (missing ++ mismatched).map (fun s =>
    if s.condition.isEmpty then s.package else quotedPackage "\"" s.package s.condition)
  "\n".intercalate (first ++ second) ++
    (if all.isEmpty then "" else "\nInstall with: pip install --upgrade " ++ " ".intercalate all)

/-- The error for a component whose requirements are not met. -/
def dependencyError (component : String) (missing mismatched : List Shortfall) (message : Option String := none) :
    Error :=
  ⟨.dependency, message.getD (shortfallMessage component missing mismatched), [(.component, component)]⟩

def checkAll (component : String) (i : Installation) (requirements : List Requirement) : Except Problem Unit := do
  let found ← (requirements.mapM (Requirement.check i)).mapError Problem.outside
  let shortfalls := found.filterMap id
  if shortfalls.isEmpty then return ()
  else
    let missing := shortfalls.filter (fun s => s.installed.isNone)
    let mismatched := shortfalls.filter (fun s => s.installed.isSome)
    throw (.own (dependencyError component missing mismatched))

end MixedScript.Package
