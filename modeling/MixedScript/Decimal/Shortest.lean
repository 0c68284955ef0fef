import MixedScript.Decimal.Binary64
import MixedScript.Text.Chars

/-!
The shortest decimal text of a binary number: the fewest digits that read back as the number, and of two
such decimals the nearer one.
-/

namespace MixedScript.Decimal

/-- A decimal `digits * 10 ^ power`. -/
structure Digits where
  /-- The digits as one natural number. -/
  digits : Nat
  /-- The power of ten they are scaled by. -/
  power : Int
  deriving DecidableEq, Repr

/-- A multiple of ten to a power, as a quotient. -/
def Digits.quotient (d : Digits) : Nat × Nat :=
  if d.power < 0 then (d.digits, Nat.pow 10 d.power.natAbs) else (d.digits * Nat.pow 10 d.power.natAbs, 1)

/-- The reals that round to a finite number, as numerators over one denominator: the lower bound, the
number itself and the upper bound. The bounds belong to the set when the mantissa is even. -/
def roundingInterval (mantissa : Nat) (exponent : Int) : Nat × Nat × Nat × Nat :=
  let low := if mantissa = Nat.pow 2 52 ∧ exponent ≠ -1074 then 4 * mantissa - 1 else 4 * mantissa - 2
  let scaled (n : Nat) : Nat := if exponent < 2 then n else n * Nat.pow 2 (exponent - 2).natAbs
  let den := if exponent < 2 then Nat.pow 2 (exponent - 2).natAbs else 1
  (scaled low, scaled (4 * mantissa), scaled (4 * mantissa + 2), den)

/-- Whether a decimal lies in the interval. -/
def Digits.within (d : Digits) (interval : Nat × Nat × Nat × Nat) (closed : Bool) : Bool :=
  let (low, _, high, den) := interval
  let (n, m) := d.quotient
  if closed then low * m ≤ n * den && n * den ≤ high * m
  else low * m < n * den && n * den < high * m

/-- The number of decimal digits before the point of a quotient, zero or less when there are none. -/
def magnitude (num den : Nat) : Int :=
  let guess : Int := ((Nat.toDigits 10 num).length : Int) - ((Nat.toDigits 10 den).length : Int)
  let reaches (k : Int) : Bool :=
    if k < 0 then den ≤ num * Nat.pow 10 k.natAbs else den * Nat.pow 10 k.natAbs ≤ num
  if reaches guess then guess + 1 else guess

/-- Looks for the fewest digits whose grid has a decimal in the interval, starting from `count` digits
and giving up when `more` further ones were tried. -/
def shortestFrom (interval : Nat × Nat × Nat × Nat) (closed : Bool) : Nat → Nat → Digits
  | more, count =>
    let (_, value, _, den) := interval
    let power := magnitude value den - (count : Int)
    let (n, d) : Nat × Nat := if power < 0 then (value * Nat.pow 10 power.natAbs, den) else (value, den * Nat.pow 10 power.natAbs)
    let below : Digits := ⟨n / d, power⟩
    let above : Digits := ⟨n / d + 1, power⟩
    let nearest : Digits :=
      if 2 * (n % d) < d then below
      else if d < 2 * (n % d) then above
      else if (n / d) % 2 = 0 then below else above
    match below.within interval closed, above.within interval closed with
    | true, true => nearest
    | true, false => below
    | false, true => above
    | false, false =>
      match more with
      | 0 => nearest
      | more + 1 => shortestFrom interval closed more (count + 1)

/-- The fewest digits that read back as a finite number that is not zero. -/
def shortest (mantissa : Nat) (exponent : Int) : Digits :=
  shortestFrom (roundingInterval mantissa exponent) (mantissa % 2 == 0) 16 1

/-- How a decimal is written out. -/
structure Layout where
  /-- The least number of digits before the point for which an exponent is written. -/
  exponentFrom : Int
  /-- The greatest number of digits before the point, zero or less, for which an exponent is written. -/
  exponentBelow : Int
  /-- The least number of digits of an exponent. -/
  exponentWidth : Nat

/-- The usual layout: an exponent from `1e+16` upwards and below `0.0001`, of two digits at least. -/
def Layout.usual : Layout := ⟨17, -4, 2⟩

/-- Digits without the zeros at their end, each of which is counted in the power. -/
def Digits.reduced : Nat → Digits → Digits
  | 0, d => d
  | fuel + 1, d =>
    if d.digits % 10 = 0 ∧ d.digits ≠ 0 then Digits.reduced fuel ⟨d.digits / 10, d.power + 1⟩ else d

/-- The text of a decimal: positional with at least one digit after the point, or with an exponent. -/
def Digits.text (layout : Layout) (d : Digits) : Chars :=
  let d := d.reduced 400
  let ds := Nat.toDigits 10 d.digits
  let before : Int := ds.length + d.power
  if layout.exponentFrom ≤ before ∨ before ≤ layout.exponentBelow then
    let e := before - 1
    let es := Nat.toDigits 10 e.natAbs
    let mark : Chars := 'e' :: (if e < 0 then '-' else '+') ::
      (List.replicate (layout.exponentWidth - es.length) '0' ++ es)
    match ds with
    | [] => mark
    | [c] => c :: mark
    | c :: rest => c :: '.' :: (rest ++ mark)
  else if before ≤ 0 then
    '0' :: '.' :: (List.replicate before.natAbs '0' ++ ds)
  else if d.power < 0 then
    ds.take before.natAbs ++ '.' :: ds.drop before.natAbs
  else
    ds ++ List.replicate d.power.natAbs '0' ++ ['.', '0']

/-- The shortest text of a number. -/
def Binary64.text : Binary64 → Chars
  | .finite negative mantissa exponent =>
    let body := if mantissa = 0 then ['0', '.', '0'] else (shortest mantissa exponent).text Layout.usual
    if negative then '-' :: body else body
  | .infinite negative => if negative then ['-', 'i', 'n', 'f'] else ['i', 'n', 'f']
  | .undefined => ['n', 'a', 'n']

end MixedScript.Decimal
