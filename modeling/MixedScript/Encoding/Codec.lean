import MixedScript.Encoding.DoubleByte
import MixedScript.Encoding.Utf8

/-!
Codecs: how bytes are read as text and text is written as bytes. ASCII, Latin-1, UTF-8, units of sixteen bits and
GB 18030 are described here. Any other codec is one of the system's, of which no more is said than that it reads
and writes.
-/

namespace MixedScript.Encoding

/-- A codec of the system. -/
structure SystemCodec where
  /-- The text of bytes, if they are one. -/
  decode : Bytes → Option Chars
  /-- The bytes of a text, if the codec has all its characters. -/
  encode : Chars → Option Bytes

/-- The codecs that a system has beside those described here, by their plain names. -/
abbrev SystemCodecs := String → Option SystemCodec

inductive Codec where
  | ascii | latin1
  | utf8 | utf8Signed
  | utf16 | utf16Little | utf16Big
  | gb18030
  | system (codec : SystemCodec)

/-- The mark at the start of a signed text. -/
def signature : Bytes := [0xEF, 0xBB, 0xBF]

/-- A name of a codec in small letters, with one underscore for every run of characters other than letters,
digits and full stops, and none at the ends. -/
def plainName (name : String) : String :=
  String.ofList (Chars.join ['_']
    ((Chars.splitAt '_' (name.toList.map (fun c => if c.isAlphanum || c == '.' then c.toLower else '_'))).filter
      (fun part => !part.isEmpty)))

def codecNames : List (String × Codec) := [
  ("ascii", .ascii), ("us_ascii", .ascii), ("646", .ascii), ("ansi_x3.4_1968", .ascii), ("ansi_x3_4_1968", .ascii),
  ("ansi_x3.4_1986", .ascii), ("cp367", .ascii), ("csascii", .ascii), ("ibm367", .ascii), ("iso646_us", .ascii),
  ("iso_646.irv_1991", .ascii), ("iso_ir_6", .ascii), ("us", .ascii),
  ("latin_1", .latin1), ("latin1", .latin1), ("latin", .latin1), ("l1", .latin1), ("8859", .latin1),
  ("iso8859", .latin1), ("iso8859_1", .latin1), ("iso_8859_1", .latin1), ("iso_8859_1_1987", .latin1),
  ("iso_ir_100", .latin1), ("cp819", .latin1), ("ibm819", .latin1), ("csisolatin1", .latin1), ("iso8859.1", .latin1),
  ("utf_8", .utf8), ("utf8", .utf8), ("u8", .utf8), ("utf", .utf8), ("cp65001", .utf8), ("utf8_ucs2", .utf8),
  ("utf8_ucs4", .utf8),
  ("utf_8_sig", .utf8Signed),
  ("utf_16", .utf16), ("utf16", .utf16), ("u16", .utf16),
  ("utf_16_le", .utf16Little), ("utf_16le", .utf16Little), ("unicodelittleunmarked", .utf16Little),
  ("utf_16_be", .utf16Big), ("utf_16be", .utf16Big), ("unicodebigunmarked", .utf16Big),
  ("gb18030", .gb18030), ("gb18030_2000", .gb18030)]

/-- The codec with a name: one that is described here, or else one of the system. -/
def Codec.ofName? (codecs : SystemCodecs) (name : String) : Option Codec :=
  (codecNames.lookup (plainName name)).orElse (fun _ => (codecs (plainName name)).map .system)

/-- Each byte as a character, if all lie below a bound. -/
def decodeBelow (bound : Nat) (bs : Bytes) : Option Chars :=
  bs.mapM (fun b => if b.toNat < bound then some (Char.ofNat b.toNat) else none)

/-- Each character as a byte, if all lie below a bound. -/
def encodeBelow (bound : Nat) (cs : Chars) : Option Bytes :=
  cs.mapM (fun c => if c.toNat < bound then some (UInt8.ofNat c.toNat) else none)

/-- A text of units of sixteen bits, the greater byte second or first. -/
def units? (big : Bool) : Bytes → Option (List Nat)
  | [] => some []
  | [_] => none
  | a :: b :: rest =>
    (units? big rest).map ((if big then 256 * a.toNat + b.toNat else a.toNat + 256 * b.toNat) :: ·)

/-- The text of units of sixteen bits. Units of a pair stand only as such. -/
def textOfUnits? : List Nat → Option Chars
  | [] => some []
  | u :: rest =>
    if 0xD800 ≤ u && u ≤ 0xDBFF then
      match rest with
      | v :: rest =>
        if 0xDC00 ≤ v && v ≤ 0xDFFF then
          (textOfUnits? rest).map (Char.ofNat (0x10000 + 0x400 * (u - 0xD800) + (v - 0xDC00)) :: ·)
        else none
      | [] => none
    else if 0xDC00 ≤ u && u ≤ 0xDFFF then none
    else (textOfUnits? rest).map (Char.ofNat u :: ·)

/-- The units of sixteen bits of a character. -/
def unitsOf (c : Char) : List Nat :=
  if c.toNat < 0x10000 then [c.toNat]
  else [0xD800 + (c.toNat - 0x10000) / 0x400, 0xDC00 + (c.toNat - 0x10000) % 0x400]

/-- A unit as two bytes, the greater second or first. -/
def unitBytes (big : Bool) (u : Nat) : Bytes :=
  let low := UInt8.ofNat (u % 256)
  let high := UInt8.ofNat (u / 256)
  if big then [high, low] else [low, high]

/-- The text of bytes in units of sixteen bits. -/
def decodeUnits (big : Bool) (bs : Bytes) : Option Chars :=
  (units? big bs).bind textOfUnits?

/-- The bytes of a text in units of sixteen bits. -/
def encodeUnits (big : Bool) (cs : Chars) : Bytes :=
  cs.flatMap (fun c => (unitsOf c).flatMap (unitBytes big))

/-- The text of bytes in units of sixteen bits, of which the first may tell their order. -/
def decodeMarkedUnits (bs : Bytes) : Option Chars :=
  match bs with
  | 0xFF :: 0xFE :: rest => decodeUnits false rest
  | 0xFE :: 0xFF :: rest => decodeUnits true rest
  | _ => decodeUnits false bs

namespace Gb18030

/-- The value at a place in runs, each of which has a first place, the value there and a length. -/
def valueAt? (runs : List (Nat × Nat × Nat)) (place : Nat) : Option Nat :=
  (runs.find? (fun (start, _, length) => start ≤ place && place < start + length)).map
    (fun (start, value, _) => value + (place - start))

def placeOf? (runs : List (Nat × Nat × Nat)) (value : Nat) : Option Nat :=
  (runs.find? (fun (_, first, length) => first ≤ value && value < first + length)).map
    (fun (start, first, _) => start + (value - first))

/-- The number of second bytes. -/
def secondBytes : Nat := 190

/-- The number of characters in a row of the table, of which two belong to each first byte. -/
def rowLength : Nat := 95

/-- The number of places of four bytes in the basic plane. -/
def basicPlaces : Nat := 39420

/-- The place of the first character of four bytes beyond the basic plane. -/
def supplementaryStart : Nat := 189000

/-- The character of two bytes at a place. -/
def doubleByteChar? (place : Nat) : Option Char := do
  match valueAt? privateRuns place with
  | some n => some (Char.ofNat n)
  | none =>
    let row ← doubleByteRows[place / rowLength]?
    row.toList[place % rowLength]?

/-- The character of four bytes at a place. -/
def fourByteChar? (place : Nat) : Option Char :=
  if place < basicPlaces then (valueAt? fourByteRuns place).map Char.ofNat
  else if supplementaryStart ≤ place && place - supplementaryStart < 0x100000 then
    some (Char.ofNat (0x10000 + (place - supplementaryStart)))
  else none

/-- The text of bytes. A byte above the ASCII range starts a character of two or four bytes, as the second one
tells. -/
def decode : Bytes → Option Chars
  | [] => some []
  | a :: rest =>
    let x := a.toNat
    if x < 0x80 then (decode rest).map (Char.ofNat x :: ·)
    else if x == 0x80 || x == 0xFF then none
    else
      match rest with
      | [] => none
      | b :: rest =>
        let y := b.toNat
        if 0x30 ≤ y && y ≤ 0x39 then
          match rest with
          | c :: d :: rest =>
            let z := c.toNat
            let w := d.toNat
            if 0x81 ≤ z && z ≤ 0xFE && 0x30 ≤ w && w ≤ 0x39 then
              let place := ((x - 0x81) * 10 + (y - 0x30)) * 1260 + (z - 0x81) * 10 + (w - 0x30)
              match fourByteChar? place with
              | some ch => (decode rest).map (ch :: ·)
              | none => none
            else none
          | _ => none
        else if 0x40 ≤ y && y ≤ 0xFE && y != 0x7F then
          let place := (x - 0x81) * secondBytes + (y - 0x40) - (if 0x7F < y then 1 else 0)
          match doubleByteChar? place with
          | some ch => (decode rest).map (ch :: ·)
          | none => none
        else none

/-- The place of a character among rows from some place on. -/
def findInRows (c : Char) (place : Nat) : List String → Option Nat
  | [] => none
  | row :: rest =>
    match row.toList.findIdx? (· == c) with
    | some i => some (place + i)
    | none => findInRows c (place + rowLength) rest

/-- The bytes of a character of two bytes at a place. -/
def doubleBytes (place : Nat) : Bytes :=
  let low := place % secondBytes
  [UInt8.ofNat (0x81 + place / secondBytes), UInt8.ofNat (0x40 + low + (if low < 63 then 0 else 1))]

/-- The bytes of a character of four bytes at a place. -/
def fourBytes (place : Nat) : Bytes :=
  [UInt8.ofNat (0x81 + place / 12600), UInt8.ofNat (0x30 + place / 1260 % 10),
    UInt8.ofNat (0x81 + place / 10 % 126), UInt8.ofNat (0x30 + place % 10)]

/-- The bytes of a character. -/
def encodeChar (c : Char) : Bytes :=
  let n := c.toNat
  if n < 0x80 then [UInt8.ofNat n]
  else if 0x10000 ≤ n then fourBytes (supplementaryStart + (n - 0x10000))
  else
    match placeOf? fourByteRuns n with
    | some place => fourBytes place
    | none => doubleBytes ((placeOf? privateRuns n).getD ((findInRows c 0 doubleByteRows).getD 0))

end Gb18030

namespace Codec

/-- The text that bytes stand for. -/
def decode : Codec → Bytes → Option Chars
  | ascii, bs => decodeBelow 0x80 bs
  | latin1, bs => decodeBelow 0x100 bs
  | utf8, bs => (Utf8.decode bs).toOption
  | utf8Signed, bs => (Utf8.decode (if bs.take 3 == signature then bs.drop 3 else bs)).toOption
  | utf16, bs => decodeMarkedUnits bs
  | utf16Little, bs => decodeUnits false bs
  | utf16Big, bs => decodeUnits true bs
  | gb18030, bs => Gb18030.decode bs
  | system codec, bs => codec.decode bs

/-- The bytes that stand for a text. -/
def encode : Codec → Chars → Option Bytes
  | ascii, cs => encodeBelow 0x80 cs
  | latin1, cs => encodeBelow 0x100 cs
  | utf8, cs => some (Utf8.encode cs)
  | utf8Signed, cs => some (signature ++ Utf8.encode cs)
  | utf16, cs => some (0xFF :: 0xFE :: encodeUnits false cs)
  | utf16Little, cs => some (encodeUnits false cs)
  | utf16Big, cs => some (encodeUnits true cs)
  | gb18030, cs => some (cs.flatMap Gb18030.encodeChar)
  | system codec, cs => codec.encode cs

end Codec

end MixedScript.Encoding
