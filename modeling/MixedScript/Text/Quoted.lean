import MixedScript.Text.Chars
import MixedScript.Text.Unprintable

/-!
Quoted texts as messages show them. A text stands in single quotes, or in double quotes when it holds a
single quote and no double quote; characters without a visible form are escaped.
-/

namespace MixedScript.Text

/-- The hexadecimal digits of a number, in small letters, filled up with zeros to a width. -/
def hexDigits (width n : Nat) : Chars :=
  let digits := Nat.toDigits 16 n
  List.replicate (width - digits.length) '0' ++ digits

/-- One character inside quotes. -/
def quotedChar (quote c : Char) : Chars :=
  if c == quote || c == '\\' then ['\\', c]
  else if c == '\t' then ['\\', 't']
  else if c == '\n' then ['\\', 'n']
  else if c == '\r' then ['\\', 'r']
  else if isUnprintable c then
    if c.toNat < 0x100 then '\\' :: 'x' :: hexDigits 2 c.toNat
    else if c.toNat < 0x10000 then '\\' :: 'u' :: hexDigits 4 c.toNat
    else '\\' :: 'U' :: hexDigits 8 c.toNat
  else [c]

/-- The quote that a text stands in. -/
def quoteFor (cs : Chars) : Char :=
  if cs.contains '\x27' && !cs.contains '\x22' then '\x22' else '\x27'

/-- A text in quotes. -/
def quoted (cs : Chars) : Chars :=
  quoteFor cs :: cs.flatMap (quotedChar (quoteFor cs)) ++ [quoteFor cs]

/-- Bytes in quotes: as the characters of those codes, escaped beyond the visible ones of ASCII. -/
def quotedBytes (bs : List UInt8) : Chars :=
  let cs := bs.map (fun b => Char.ofNat b.toNat)
  'b' :: quoteFor cs :: cs.flatMap (fun c =>
    if 0x7F ≤ c.toNat then '\\' :: 'x' :: hexDigits 2 c.toNat else quotedChar (quoteFor cs) c) ++ [quoteFor cs]

end MixedScript.Text
