import MixedScript.Text.Chars

/-!
Bytes written in base 64. Characters that are no digits are passed over, and so is what follows the padding that
fills up the last group of four.
-/

namespace MixedScript.Text

/-- The value of a digit in base 64. -/
def base64Digit? (c : Char) : Option Nat :=
  let n := c.toNat
  if 'A' ≤ c && c ≤ 'Z' then some (n - 65)
  else if 'a' ≤ c && c ≤ 'z' then some (n - 71)
  else if '0' ≤ c && c ≤ '9' then some (n + 4)
  else if c == '+' then some 62
  else if c == '/' then some 63
  else none

/-- The bytes of a text from some place in a group of four digits on: the number of digits before it, what is left
of the one before it, and the number of padding characters since then. -/
def base64From (digits left pads : Nat) : Chars → Option (List UInt8)
  | [] => if digits = 0 then some [] else none
  | c :: rest =>
    if c == '=' then
      if 2 ≤ digits then
        if 4 ≤ digits + pads + 1 then some [] else base64From digits left (pads + 1) rest
      else base64From digits left pads rest
    else
      match base64Digit? c with
      | none => base64From digits left pads rest
      | some d =>
        match digits with
        | 0 => base64From 1 d 0 rest
        | 1 => (base64From 2 (d % 16) 0 rest).map (UInt8.ofNat (4 * left + d / 16) :: ·)
        | 2 => (base64From 3 (d % 4) 0 rest).map (UInt8.ofNat (16 * left + d / 4) :: ·)
        | _ => (base64From 0 0 0 rest).map (UInt8.ofNat (64 * left + d) :: ·)

/-- The bytes that a text in base 64 stands for. -/
def base64? (cs : Chars) : Option (List UInt8) :=
  base64From 0 0 0 cs

/-- The digit in base 64 with a value. -/
def base64Digit (d : Nat) : Char :=
  if d < 26 then Char.ofNat (d + 65)
  else if d < 52 then Char.ofNat (d + 71)
  else if d < 62 then Char.ofNat (d - 4)
  else if d = 62 then '+'
  else '/'

/-- Bytes in base 64. -/
def toBase64 : List UInt8 → Chars
  | [] => []
  | [a] => [base64Digit (a.toNat / 4), base64Digit (16 * (a.toNat % 4)), '=', '=']
  | [a, b] =>
    [base64Digit (a.toNat / 4), base64Digit (16 * (a.toNat % 4) + b.toNat / 16), base64Digit (4 * (b.toNat % 16)), '=']
  | a :: b :: c :: rest =>
    base64Digit (a.toNat / 4) :: base64Digit (16 * (a.toNat % 4) + b.toNat / 16) ::
      base64Digit (4 * (b.toNat % 16) + c.toNat / 64) :: base64Digit (c.toNat % 64) :: toBase64 rest

end MixedScript.Text
