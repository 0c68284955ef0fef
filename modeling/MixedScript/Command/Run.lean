import MixedScript.Command.Item

/-!
A run of the command line, from its arguments to its exit code. All inputs are processed in order, whatever
happens to those before them; the first failure gives the exit code.
-/

namespace MixedScript.Command

/-- The version of the program. -/
def version : String := "0.1.0"

/-- What is told of the use of the program. -/
def usage : String := "usage: cjkfmt [options] [PATH ...]"

/-- What a run starts from. -/
structure Invocation where
  arguments : List String
  /-- Where the run takes place. -/
  surroundings : Surroundings
  /-- The configuration file that the environment names. -/
  environment : Option String
  /-- The standard input. -/
  input : Encoding.Bytes
  /-- When entries of the journal are told. -/
  stamp : Nat → Stamp

/-- What a run ends with. -/
structure Outcome where
  /-- The exit code, or a failure outside the program's own checks. -/
  exit : Except Mishap Nat
  console : Console

/-- The console after all inputs, and for each of them whether formatting has changed it or why it has failed. A
failure outside the program's own checks ends the run. -/
def processAll (s : Setting) (options : FormatOptions) (m : Mode) :
    Console → List String → Console × Except Mishap (List (Except Error Bool))
  | c, [] => (c, .ok [])
  | c, input :: rest =>
    match processItem s options m c input with
    | (c, .error (.outside mishap)) => (c, .error mishap)
    | (c, .error (.own e)) =>
      let c := c.complain ("Error: " ++ input ++ ": " ++ e.message)
      let c := c.tell s.logging s.stamp (.debug .command "Formatting failed")
      let (c, results) := processAll s options m c rest
      (c, results.map (.error e :: ·))
    | (c, .ok changed) =>
      let (c, results) := processAll s options m c rest
      (c, results.map (.ok changed :: ·))

/-- The exit code of the first failure. -/
def firstFailure? : List (Except Error Bool) → Option Nat
  | [] => none
  | .error e :: _ => some e.exitCode
  | .ok _ :: rest => firstFailure? rest

/-- Whether formatting has changed an input. -/
def isChange : Except Error Bool → Bool
  | .ok changed => changed
  | .error _ => false

/-- The exit code after all inputs: that of the first failure, or one if changes are to be told and there are some. -/
def exitCode (m : Mode) (results : List (Except Error Bool)) : Nat :=
  match firstFailure? results with
  | some code => code
  | none => if m = .check ∧ results.any isChange then 1 else 0

/-- The options and the inputs of a run. -/
def prepare (i : Invocation) (s : Surroundings) (a : Arguments) : Work (FormatOptions × List String) := do
  let options ← loadOptions s i.environment a
  let inputs ← collectInputs s (if a.paths.isEmpty then [standardInput] else a.paths)
  return (options, inputs)

/-- A run that the arguments ask for. -/
def runWith (i : Invocation) (a : Arguments) (c : Console) : Outcome :=
  let (logging, c) := startLogging a i.surroundings.current i.stamp c
  let s : Setting := ⟨i.surroundings, logging, i.stamp⟩
  match s.follow c (prepare i (s.now c) a) with
  | (c, .error (.outside m)) => ⟨.error m, c⟩
  | (c, .error (.own e)) => ⟨.ok e.exitCode, c.complain ("Error: " ++ e.message)⟩
  | (c, .ok (_, [])) => ⟨.ok Category.file.exitCode, c.complain "Error: No markdown files found"⟩
  | (c, .ok (options, inputs)) =>
    let (c, results) := processAll s options a.mode c inputs
    ⟨results.map (exitCode a.mode), c⟩

def run (i : Invocation) : Outcome :=
  let c : Console := { files := i.surroundings.files, input := i.input }
  match Arguments.parse i.arguments with
  | .ok a => runWith i a c
  | .error farewell =>
    let c := match farewell with
      | .help => c.print (usage ++ "\n").toList
      | .version => c.print ("cjkfmt " ++ version ++ "\n").toList
      | .refused => (c.complain usage).complain "cjkfmt: error: the arguments make no sense"
    ⟨.ok farewell.exitCode, c⟩

end MixedScript.Command
