import MixedScript.Calendar
import MixedScript.Text.Digits
import MixedScript.Value

/-!
Numbers, dates and times of TOML.
-/

namespace MixedScript.Toml

/-- The digits behind a first one, without the single underscores between them, and what follows. -/
def spanDigits (isDigit : Char → Bool) : Chars → Chars × Chars
  | '_' :: c :: rest =>
    if isDigit c then
      let (ds, later) := spanDigits isDigit rest
      (c :: ds, later)
    else ([], '_' :: c :: rest)
  | c :: rest =>
    if isDigit c then
      let (ds, later) := spanDigits isDigit rest
      (c :: ds, later)
    else ([], c :: rest)
  | [] => ([], [])

/-- Digits at the start of a text, without single underscores between them, and what follows. -/
def readDigits (isDigit : Char → Bool) : Chars → Option (Chars × Chars)
  | c :: rest =>
    if isDigit c then
      let (ds, later) := spanDigits isDigit rest
      some (c :: ds, later)
    else none
  | [] => none

/-- Bases other than ten, with the letter that marks each and its digits. -/
def bases : List (Char × Nat × (Char → Bool)) := [
  ('x', 16, Text.isHexDigit), ('b', 2, fun c => c == '0' || c == '1'), ('o', 8, fun c => '0' ≤ c && c ≤ '7')]

/-- A number in a base other than ten after its zero, and what follows. -/
def readInBase (cs : Chars) : Option (Int × Chars) :=
  match cs with
  | [] => none
  | letter :: rest => do
    let (base, isDigit) ← bases.lookup letter
    let (ds, rest) ← readDigits isDigit rest
    some (Text.valueIn base ds, rest)

/-- The whole part of a number: a zero, or digits of which the first is none. -/
def readWhole (cs : Chars) : Option (Chars × Chars) :=
  match cs with
  | '0' :: rest => some (['0'], rest)
  | _ => readDigits Char.isDigit cs

/-- The digits after a point, and what follows. -/
def readFraction (cs : Chars) : Option (Chars × Chars) :=
  match cs with
  | '.' :: rest => readDigits Char.isDigit rest
  | _ => none

/-- An exponent, and what follows. -/
def readExponent (cs : Chars) : Option (Int × Chars) :=
  match cs with
  | e :: rest =>
    if e == 'e' || e == 'E' then do
      let (negative, rest) := Text.splitSign rest
      let (ds, rest) ← readDigits Char.isDigit rest
      some (if negative then -(Text.decimalValue ds : Int) else Text.decimalValue ds, rest)
    else none
  | [] => none

/-- A decimal number, and what follows. -/
def readDecimal? (cs : Chars) : Option (Except Mishap Scalar × Chars) := do
  let (negative, rest) := Text.splitSign cs
  let (whole, rest) ← readWhole rest
  let fraction := readFraction rest
  let (places, rest) := fraction.getD ([], rest)
  let exponent := readExponent rest
  let (power, rest) := exponent.getD (0, rest)
  if fraction.isNone && exponent.isNone then
    some ((Text.integerValue whole).map (fun n => .int (if negative then -(n : Int) else n)), rest)
  else some (.ok (.float (.ofDecimal negative (Text.decimalValue (whole ++ places)) (power - places.length))), rest)

/-- A word for an infinity or an undefined number, and what follows. -/
def readSpecial (cs : Chars) : Option (Scalar × Chars) :=
  let (negative, rest) := Text.splitSign cs
  match rest with
  | 'i' :: 'n' :: 'f' :: rest => some (.float (.infinite negative), rest)
  | 'n' :: 'a' :: 'n' :: rest => some (.float .undefined, rest)
  | _ => none

/-- A number, and what follows. -/
def readNumber (cs : Chars) : Except Refusal (Scalar × Chars) :=
  let based : Option (Scalar × Chars) := match cs with
    | '0' :: rest => (readInBase rest).map (fun (i, rest) => (.int i, rest))
    | _ => none
  match based with
  | some found => .ok found
  | none =>
    match readDecimal? cs with
    | some (number, rest) => (number.mapError .value).map (fun s => (s, rest))
    | none => Refusal.ofForm (readSpecial cs)

/-- A number of exactly `n` digits within bounds, and what follows. -/
def readField (n least most : Nat) (cs : Chars) : Option (Nat × Chars) :=
  let ds := cs.take n
  let value := Text.decimalValue ds
  if ds.length == n && ds.all Char.isDigit && least ≤ value && value ≤ most then some (value, cs.drop n) else none

/-- What follows a character. -/
def after? (c : Char) (cs : Chars) : Option Chars :=
  Chars.after? [c] cs

/-- A time of day without offset, and what follows. -/
def readTime (cs : Chars) : Option (TimeOfDay × Chars) := do
  let (hour, rest) ← readField 2 0 23 cs
  let (minute, rest) ← readField 2 0 59 (← after? ':' rest)
  let (second, rest) ← readField 2 0 59 (← after? ':' rest)
  let places := match rest with
    | '.' :: more => more.takeWhile Char.isDigit
    | _ => []
  if places.isEmpty then some (⟨hour, minute, second, 0, none⟩, rest)
  else some (⟨hour, minute, second, microOfDigits places, none⟩, rest.drop (places.length + 1))

/-- An offset from universal time in minutes, and what follows. -/
def readOffset (cs : Chars) : Option (Int × Chars) :=
  match cs with
  | 'Z' :: rest | 'z' :: rest => some (0, rest)
  | s :: rest =>
    if s == '+' || s == '-' then do
      let (hours, rest) ← readField 2 0 23 rest
      let (minutes, rest) ← readField 2 0 59 (← after? ':' rest)
      let total : Int := 60 * hours + minutes
      some (if s == '-' then -total else total, rest)
    else none
  | [] => none

/-- The time of day behind a date, with its offset if it has one, and what follows. -/
def readTimePart (cs : Chars) : Option (TimeOfDay × Chars) :=
  match cs with
  | c :: rest =>
    if c == 'T' || c == 't' || c == ' ' then do
      let (time, rest) ← readTime rest
      match readOffset rest with
      | some (offset, rest) => some ({ time with offset := some offset }, rest)
      | none => some (time, rest)
    else none
  | [] => none

/-- A date in its form, and what follows. -/
def readDate (cs : Chars) : Option (CalendarDate × Chars) := do
  let (year, rest) ← readField 4 0 9999 cs
  let (month, rest) ← readField 2 1 12 (← after? '-' rest)
  let (day, rest) ← readField 2 1 31 (← after? '-' rest)
  some (⟨year, month, day⟩, rest)

/-- A date, a time or both in ISO form, and what follows; nothing if there is no such date. -/
def readMoment (cs : Chars) : Option (Option Scalar × Chars) :=
  match readDate cs with
  | some (date, rest) =>
    let checked (iso : Chars) : Option Scalar :=
      match date.check with
      | .ok _ => some (.date (String.ofList iso))
      | .error _ => none
    match readTimePart rest with
    | some (time, rest) => some (checked (date.iso ++ 'T' :: time.iso), rest)
    | none => some (checked date.iso, rest)
  | none => (readTime cs).map (fun (time, rest) => (some (.date (String.ofList time.iso)), rest))

end MixedScript.Toml
