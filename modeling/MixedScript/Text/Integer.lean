import MixedScript.Text.DecimalDigit
import MixedScript.Text.Digits
import MixedScript.Text.Quoted

/-!
Integers as users write them: in digits of a base, the decimal ones of any script, with a sign in front, single
underscores between digits and blanks around. In front of the digits of a base other than ten a mark of the base
may stand.
-/

namespace MixedScript.Text

/-- The value of a digit of a base. -/
def digitIn? (base : Nat) (c : Char) : Option Nat :=
  ((digitValue? c).orElse (fun _ => hexDigitValue? c)).filter (· < base)

/-- The letter that follows a zero in the mark of a base. -/
def baseMark? (base : Nat) : Option Char :=
  [(2, 'b'), (8, 'o'), (16, 'x')].lookup base

/-- Digits without the mark of their base, which an underscore may follow. -/
def afterBaseMark (base : Nat) : Chars → Chars
  | zero :: mark :: rest =>
    if digitValue? zero == some 0 && baseMark? base == some mark.toLower then (Chars.after? ['_'] rest).getD rest
    else zero :: mark :: rest
  | ds => ds

/-- The digits of an integer in a base, and whether it is negative. -/
def signedDigits? (base : Nat) (cs : Chars) : Option (Bool × List Nat) :=
  let (negative, body) := splitSign (Chars.strip cs)
  let parts := Chars.splitAt '_' (afterBaseMark base body)
  if parts.any List.isEmpty then none else (parts.flatten.mapM (digitIn? base)).map (fun ds => (negative, ds))

/-- The integer that a text stands for in a base. Only in base ten the number of digits is limited. -/
def integerIn (base : Nat) (cs : Chars) : Except Mishap Int :=
  match signedDigits? base cs with
  | none =>
    .error (.badValue ("invalid literal for int() with base " ++ String.ofList (Chars.ofNat base) ++ ": " ++
      String.ofList (quoted cs)))
  | some (negative, ds) =>
    if base == 10 && digitLimit < ds.length then .error (tooManyDigits ds.length)
    else
      let n := ds.foldl (fun n d => base * n + d) 0
      .ok (if negative then -(n : Int) else n)

/-- The integer that a text stands for in base ten. -/
def integer? (cs : Chars) : Option Int :=
  (integerIn 10 cs).toOption

end MixedScript.Text
