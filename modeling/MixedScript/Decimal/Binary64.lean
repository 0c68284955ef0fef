/-!
Binary floating-point numbers of double precision as exact values: a natural mantissa times a power of two.
Reading a decimal rounds to the nearest such number, a tie going to the even mantissa.
-/

namespace MixedScript.Decimal

/-- A number of double precision. A finite one is `mantissa * 2 ^ exponent`, with the mantissa below
`2 ^ 53` and the exponent from `-1074` to `971`. -/
inductive Binary64 where
  /-- A finite number and its sign, which zero has too. -/
  | finite (negative : Bool) (mantissa : Nat) (exponent : Int)
  /-- An infinity. -/
  | infinite (negative : Bool)
  /-- The result of an undefined operation. -/
  | undefined
  deriving DecidableEq, Repr

namespace Binary64

/-- The nearest natural number to a quotient, a tie going to the even one. -/
def roundQuotient (num den : Nat) : Nat :=
  let q := num / den
  let r := num % den
  if 2 * r < den then q
  else if den < 2 * r then q + 1
  else if q % 2 = 0 then q else q + 1

/-- The quotient `num / den` scaled by a power of two, as numerator and denominator. -/
def scaleByTwo (num den : Nat) (exponent : Int) : Nat × Nat :=
  if exponent < 0 then (num, den * Nat.pow 2 exponent.natAbs) else (num * Nat.pow 2 exponent.natAbs, den)

/-- The least exponent that keeps the quotient below `2 ^ 53`, but no less than `-1074`. -/
def exponentFor (num den : Nat) : Int :=
  let guess : Int := (num.log2 : Int) - (den.log2 : Int) - 53
  let fits (e : Int) : Bool :=
    let scaled := scaleByTwo num den (-e)
    scaled.1 < scaled.2 * Nat.pow 2 53
  let least := if fits guess then guess else if fits (guess + 1) then guess + 1 else guess + 2
  max least (-1074)

/-- The number nearest to a quotient of natural numbers. -/
def ofQuotient (negative : Bool) (num den : Nat) : Binary64 :=
  if num = 0 then finite negative 0 (-1074)
  else
    let e := exponentFor num den
    let scaled := scaleByTwo num den (-e)
    let m := roundQuotient scaled.1 scaled.2
    if m < Nat.pow 2 53 then
      if 971 < e then infinite negative else finite negative m e
    else if 971 < e + 1 then infinite negative
    else finite negative (m / 2) (e + 1)

/-- The number nearest to `digits * 10 ^ power`. -/
def ofDecimal (negative : Bool) (digits : Nat) (power : Int) : Binary64 :=
  if digits = 0 then finite negative 0 (-1074)
  else if 400 < power then infinite negative
  else if power < -400 - (digits.log2 : Int) then finite negative 0 (-1074)
  else if power < 0 then ofQuotient negative digits (Nat.pow 10 power.natAbs)
  else ofQuotient negative (digits * Nat.pow 10 power.natAbs) 1

/-- The number nearest to an integer. -/
def ofInt (i : Int) : Binary64 :=
  ofQuotient (i < 0) i.natAbs 1

/-- The integer that a finite number is, when it is one. -/
def toInt? : Binary64 → Option Int
  | finite negative mantissa exponent =>
    let value : Option Nat :=
      if 0 ≤ exponent then some (mantissa * Nat.pow 2 exponent.natAbs)
      else if mantissa % Nat.pow 2 exponent.natAbs = 0 then some (mantissa / Nat.pow 2 exponent.natAbs)
      else none
    value.map (fun n => if negative then -(n : Int) else n)
  | _ => none

/-- Whether a number is zero. -/
def isZero : Binary64 → Bool
  | finite _ mantissa _ => mantissa == 0
  | _ => false

/-- The number nearest to a natural number times a power of two. -/
def ofScaled (negative : Bool) (n : Nat) (exponent : Int) : Binary64 :=
  let (num, den) := scaleByTwo n 1 exponent
  ofQuotient negative num den

def negate : Binary64 → Binary64
  | finite negative mantissa exponent => finite (!negative) mantissa exponent
  | infinite negative => infinite (!negative)
  | undefined => undefined

/-- Whether a number has the minus sign. -/
def isNegative : Binary64 → Bool
  | finite negative .. | infinite negative => negative
  | undefined => false

/-- The product of two numbers, rounded. -/
def mul : Binary64 → Binary64 → Binary64
  | finite s m e, finite t n f => ofScaled (s != t) (m * n) (e + f)
  | undefined, _ | _, undefined => undefined
  | x, y => if x.isZero || y.isZero then undefined else infinite (x.isNegative != y.isNegative)

/-- A mantissa with its sign, shifted from an exponent to one that is no greater. -/
def shifted (negative : Bool) (mantissa : Nat) (exponent lower : Int) : Int :=
  let n : Int := mantissa * Nat.pow 2 (exponent - lower).natAbs
  if negative then -n else n

/-- The sum of two numbers, rounded. -/
def add : Binary64 → Binary64 → Binary64
  | finite s m e, finite t n f =>
    let lower := min e f
    let sum := shifted s m e lower + shifted t n f lower
    if sum = 0 then finite (s && t) 0 (-1074) else ofScaled (sum < 0) sum.natAbs lower
  | undefined, _ | _, undefined => undefined
  | infinite s, infinite t => if s == t then infinite s else undefined
  | infinite s, finite .. | finite .., infinite s => infinite s

end Binary64

end MixedScript.Decimal
