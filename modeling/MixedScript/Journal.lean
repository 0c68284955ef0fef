import MixedScript.Error
import MixedScript.Text.LetterCase
import MixedScript.Value

/-!
The journal of a run: what happened, how severe it is, and which part of the program tells it. Work yields a
result or a problem, and in both cases what it has told.
-/

namespace MixedScript

/-- How severe an entry of the journal is. -/
inductive Severity where
  | debug | info | warning | error | critical
  deriving DecidableEq, Repr

namespace Severity

/-- The number of a severity; greater ones are more severe. -/
def level : Severity → Nat
  | debug => 10
  | info => 20
  | warning => 30
  | error => 40
  | critical => 50

def name : Severity → String
  | debug => "DEBUG"
  | info => "INFO"
  | warning => "WARNING"
  | error => "ERROR"
  | critical => "CRITICAL"

end Severity

/-- The parts of the program that tell things. -/
inductive Origin where
  | program | command | settings | formatter | reader | spacing | encoding
  deriving DecidableEq, Repr

/-- The name of a part of the program as the journal shows it. -/
def Origin.name : Origin → String
  | program => "cjkfmt"
  | command => "cjkfmt.cli"
  | settings => "cjkfmt.cli.config"
  | formatter => "cjkfmt.api"
  | reader => "cjkfmt.parsers.markdown"
  | spacing => "cjkfmt.transforms.spacing"
  | encoding => "cjkfmt.utils.encoding"

/-- An entry of the journal. -/
structure Entry where
  /-- How severe it is. -/
  severity : Severity
  /-- Who tells it. -/
  origin : Origin
  /-- What happened. -/
  text : String
  deriving DecidableEq, Repr

/-- Entries of the journal in order. -/
abbrev Journal := List Entry

/-- A detail of a run. -/
def Entry.debug (origin : Origin) (text : String) : Entry :=
  ⟨.debug, origin, text⟩

/-- A natural number in decimal digits. -/
def showNat (n : Nat) : String :=
  String.ofList (Chars.ofNat n)

/-- A severity for every name that a level may go by. -/
def levelNames : List (String × Nat) := [
  ("CRITICAL", 50), ("FATAL", 50), ("ERROR", 40), ("WARN", 30), ("WARNING", 30), ("INFO", 20), ("DEBUG", 10),
  ("NOTSET", 0)]

/-- The level that a value stands for: a number, or a name in letters of any case. -/
def levelOf (v : Value) : Except Mishap Int :=
  let named : Option Nat := match v with
    | .str s => levelNames.lookup (String.ofList (Text.toUpper s.toList))
    | _ => none
  match v, named with
  | .int i, _ => .ok i
  | .bool b, _ => .ok (if b then 1 else 0)
  | _, some n => .ok n
  | _, none => .error (.badValue ("Unknown log level: " ++ String.ofList v.quoted))

/-- What has come of a piece of work: its result or the problem that stopped it, and what it has told. -/
structure Work (α : Type) where
  result : Except Problem α
  /-- What has been told. -/
  journal : Journal := []

namespace Work

/-- Work that is done already. -/
protected def pure {α : Type} (a : α) : Work α :=
  ⟨.ok a, []⟩

/-- Work that goes on from the result of other work. A problem stops it. -/
protected def bind {α β : Type} (w : Work α) (next : α → Work β) : Work β :=
  match w.result with
  | .ok a => ⟨(next a).result, w.journal ++ (next a).journal⟩
  | .error p => ⟨.error p, w.journal⟩

instance : Monad Work where
  pure := Work.pure
  bind := Work.bind

/-- Work that tells one thing. -/
def tell (e : Entry) : Work Unit :=
  ⟨.ok (), [e]⟩

/-- Work that tells several things and may be stopped. -/
def of {α : Type} (journal : Journal) (result : Except Problem α) : Work α :=
  ⟨result, journal⟩

/-- Work that is stopped by an error of the library. -/
def fail {α : Type} (e : Error) : Work α :=
  ⟨.error (.own e), []⟩

end Work

end MixedScript
