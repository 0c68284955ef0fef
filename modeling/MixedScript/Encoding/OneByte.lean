import MixedScript.Encoding.Codec

/-!
The codecs of a system that has no tables for characters of two bytes: of Big5, EUC-KR and Shift JIS the characters
of one byte.
-/

namespace MixedScript.Encoding

/-- The character of a byte of Shift JIS that stands alone. -/
def shiftJisChar? (b : UInt8) : Option Char :=
  let n := b.toNat
  if n < 0x80 then some (Char.ofNat n)
  else if 0xA1 ≤ n && n ≤ 0xDF then some (Char.ofNat (0xFF61 + (n - 0xA1)))
  else none

/-- The byte of Shift JIS for a character that has one alone. -/
def shiftJisByte? (c : Char) : Option UInt8 :=
  let n := c.toNat
  if n < 0x80 then some (UInt8.ofNat n)
  else if c == '¥' then some 0x5C
  else if c == '‾' then some 0x7E
  else if 0xFF61 ≤ n && n ≤ 0xFF9F then some (UInt8.ofNat (0xA1 + (n - 0xFF61)))
  else none

def shiftJisNames : List String := ["shift_jis", "shiftjis", "sjis", "s_jis", "csshiftjis"]

/-- The names of the codecs of which only ASCII is known. -/
def doubleByteNames : List String := [
  "big5", "big5_tw", "csbig5", "euc_kr", "euckr", "korean", "ksc5601", "ks_c_5601", "ks_c_5601_1987", "ksx1001",
  "ks_x_1001"]

def oneByteCodecs : SystemCodecs := fun name =>
  if shiftJisNames.contains name then some ⟨List.mapM shiftJisChar?, List.mapM shiftJisByte?⟩
  else if doubleByteNames.contains name then some ⟨decodeBelow 0x80, encodeBelow 0x80⟩
  else none

end MixedScript.Encoding
