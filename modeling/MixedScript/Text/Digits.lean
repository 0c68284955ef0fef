import MixedScript.Error
import MixedScript.Text.Chars

/-!
Numbers written in digits of a base up to sixteen.
-/

namespace MixedScript.Text

def hexDigitValue? (c : Char) : Option Nat :=
  if c.isDigit then some (c.toNat - 48)
  else if 'a' ≤ c.toLower && c.toLower ≤ 'f' then some (c.toLower.toNat - 87)
  else none

/-- Whether a character is a digit in base sixteen. -/
def isHexDigit (c : Char) : Bool :=
  (hexDigitValue? c).isSome

/-- The value of digits in a base. -/
def valueIn (base : Nat) (ds : Chars) : Nat :=
  ds.foldl (fun n c => base * n + (hexDigitValue? c).getD 0) 0

/-- The value of decimal digits. -/
def decimalValue (ds : Chars) : Nat :=
  valueIn 10 ds

/-- How many decimal digits an integer may have as a text. -/
def digitLimit : Nat := 4300

/-- The refusal of an integer with too many digits, which have been counted if it was read from a text. -/
def tooManyDigits (counted : Option Nat) : Mishap :=
  .badValue ("Exceeds the limit (" ++ String.ofList (Chars.ofNat digitLimit) ++
    " digits) for integer string conversion" ++
    (counted.map (fun n => ": value has " ++ String.ofList (Chars.ofNat n) ++ " digits")).getD "" ++
    "; use sys.set_int_max_str_digits() to increase the limit")

/-- The integer that decimal digits stand for, unless they are too many. -/
def integerValue (ds : Chars) : Except Mishap Nat :=
  if ds.length ≤ digitLimit then .ok (decimalValue ds) else .error (tooManyDigits ds.length)

/-- Whether an integer has more digits than a text may have. -/
def isOverlong (i : Int) : Bool :=
  Nat.pow 10 digitLimit ≤ i.natAbs

/-- The value of exactly `n` digits in base sixteen at the start of a text. -/
def hexNumber? (n : Nat) (cs : Chars) : Option Nat :=
  let ds := cs.take n
  if ds.length == n && ds.all isHexDigit then some (valueIn 16 ds) else none

/-- The sign at the start of a number, and what follows it. -/
def splitSign : Chars → Bool × Chars
  | '-' :: rest => (true, rest)
  | '+' :: rest => (false, rest)
  | cs => (false, cs)

end MixedScript.Text
