import MixedScript.Decimal.Binary64
import MixedScript.Text.DecimalDigit
import MixedScript.Text.Digits

/-!
Floats as users write them: decimal digits of any script with a point and an exponent, or a word, with a sign in
front and blanks around.
-/

namespace MixedScript.Text

/-- The decimal digits at the start of a text, and what follows them. -/
def spanDecimals (cs : Chars) : List Nat × Chars :=
  ((cs.takeWhile isDecimalDigit).filterMap digitValue?, cs.dropWhile isDecimalDigit)

/-- The number that decimal digits stand for. -/
def ofDecimals (ds : List Nat) : Nat :=
  ds.foldl (fun n d => 10 * n + d) 0

/-- The exponent that a text is; zero if it is empty. -/
def exponent? : Chars → Option Int
  | [] => some 0
  | mark :: rest =>
    let (negative, ds) := splitSign rest
    match spanDecimals ds with
    | ([], _) | (_, _ :: _) => none
    | (power, []) =>
      if mark.toLower != 'e' then none
      else some (if negative then -(ofDecimals power : Int) else ofDecimals power)

/-- Digits with a point and an exponent, as the nearest float. -/
def decimal? (negative : Bool) (cs : Chars) : Option Decimal.Binary64 :=
  let (whole, rest) := spanDecimals cs
  let (places, rest) := ((Chars.after? ['.'] rest).map spanDecimals).getD ([], rest)
  if whole.isEmpty && places.isEmpty then none
  else (exponent? rest).map (fun e => .ofDecimal negative (ofDecimals (whole ++ places)) (e - places.length))

/-- The float that a text stands for. -/
def float? (cs : Chars) : Option Decimal.Binary64 :=
  let (negative, body) := splitSign (Chars.strip cs)
  let word := body.map Char.toLower
  if word == "inf".toList || word == "infinity".toList then some (.infinite negative)
  else if word == "nan".toList then some .undefined
  else decimal? negative body

end MixedScript.Text
