import MixedScript.Text.Quoted

/-!
UTF-8. Reading goes byte by byte: between characters, or inside one with some continuation bytes still
owed, of which the next lies in a range that excludes overlong forms, surrogates and what is beyond the
last code point.
-/

namespace MixedScript.Encoding

/-- Bytes, as files hold them. -/
abbrev Bytes := List UInt8

namespace Utf8

/-- Why bytes are not UTF-8. -/
inductive Reason where
  /-- A byte that starts no character. -/
  | badStart
  /-- A byte that cannot continue the character before it. -/
  | badContinuation
  /-- The end inside a character. -/
  | endOfData
  deriving DecidableEq, Repr

/-- A fault: the first bad byte, the bytes that belong to it, and the reason. -/
structure Fault where
  /-- The position of the byte that starts the bad sequence. -/
  start : Nat
  /-- The number of bytes of the bad sequence. -/
  length : Nat
  /-- The byte at the start. -/
  byte : UInt8
  reason : Reason
  deriving DecidableEq, Repr

/-- A reason in words. -/
def Reason.text : Reason → String
  | badStart => "invalid start byte"
  | badContinuation => "invalid continuation byte"
  | endOfData => "unexpected end of data"

/-- A fault in words. -/
def Fault.text (f : Fault) : String :=
  let place :=
    if f.length = 1 then
      "byte 0x" ++ String.ofList (Text.hexDigits 2 f.byte.toNat) ++ " in position " ++ String.ofList (Chars.ofNat f.start)
    else
      "bytes in position " ++ String.ofList (Chars.ofNat f.start) ++ "-" ++
        String.ofList (Chars.ofNat (f.start + f.length - 1))
  "'utf-8' codec can't decode " ++ place ++ ": " ++ f.reason.text

/-- A character that is being read: its first byte, the bits so far, the bytes read and owed, and the range
of the next byte. -/
structure Open where
  /-- The first byte. -/
  byte : UInt8
  /-- The bits read so far. -/
  bits : Nat
  /-- The number of bytes read. -/
  read : Nat
  /-- The number of bytes owed after the next one. -/
  owed : Nat
  /-- The least value of the next byte. -/
  low : Nat
  /-- The greatest value of the next byte. -/
  high : Nat

/-- The character that a byte above the ASCII range starts. -/
def opening (b : UInt8) : Option Open :=
  let n := b.toNat
  if 0xC2 ≤ n ∧ n ≤ 0xDF then some ⟨b, n - 0xC0, 1, 0, 0x80, 0xBF⟩
  else if n = 0xE0 then some ⟨b, 0, 1, 1, 0xA0, 0xBF⟩
  else if n = 0xED then some ⟨b, 0xD, 1, 1, 0x80, 0x9F⟩
  else if 0xE1 ≤ n ∧ n ≤ 0xEF then some ⟨b, n - 0xE0, 1, 1, 0x80, 0xBF⟩
  else if n = 0xF0 then some ⟨b, 0, 1, 2, 0x90, 0xBF⟩
  else if 0xF1 ≤ n ∧ n ≤ 0xF3 then some ⟨b, n - 0xF0, 1, 2, 0x80, 0xBF⟩
  else if n = 0xF4 then some ⟨b, 4, 1, 2, 0x80, 0x8F⟩
  else none

/-- Reads on from a position, inside a character or between two. -/
def decodeFrom (place : Nat) : Option Open → Bytes → Except Fault Chars
  | none, [] => .ok []
  | some o, [] => .error ⟨place - o.read, o.read, o.byte, .endOfData⟩
  | none, b :: rest =>
    if b.toNat < 0x80 then do
      let later ← decodeFrom (place + 1) none rest
      return Char.ofNat b.toNat :: later
    else
      match opening b with
      | none => .error ⟨place, 1, b, .badStart⟩
      | some o => decodeFrom (place + 1) (some o) rest
  | some o, b :: rest =>
    if o.low ≤ b.toNat ∧ b.toNat ≤ o.high then
      let bits := 64 * o.bits + (b.toNat - 0x80)
      match o.owed with
      | 0 => do
        let later ← decodeFrom (place + 1) none rest
        return Char.ofNat bits :: later
      | owed + 1 => decodeFrom (place + 1) (some ⟨o.byte, bits, o.read + 1, owed, 0x80, 0xBF⟩) rest
    else .error ⟨place - o.read, o.read, o.byte, .badContinuation⟩

/-- The text that bytes encode. -/
def decode (bs : Bytes) : Except Fault Chars :=
  decodeFrom 0 none bs

/-- The bytes of a text. -/
def encode (cs : Chars) : Bytes :=
  cs.flatMap String.utf8EncodeChar

end Utf8

end MixedScript.Encoding
