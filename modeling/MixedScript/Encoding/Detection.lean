import MixedScript.Encoding.Codec
import MixedScript.Journal

/-!
Finding out the encoding of a text. UTF-8 comes first, then the guess of a detector if it is confident enough,
then each of a few encodings that are still common.
-/

namespace MixedScript.Encoding

/-- The guess of a detector: the name of an encoding, if it has one, and how sure it is, in hundredths. -/
structure Guess where
  /-- The name of the encoding. -/
  encoding : Option String
  /-- How sure the detector is. -/
  percent : Nat
  deriving DecidableEq, Repr

/-- A detector: its guess about bytes, if it has one. -/
abbrev Detector := Bytes → Option Guess

/-- The number of bytes that a detector is shown. -/
def sampleSize : Nat := 65536

/-- How sure a detector has to be, in hundredths. -/
def threshold : Nat := 50

/-- The encodings that are tried in the end. -/
def fallbacks : List String := ["gb18030", "big5", "shift_jis", "euc-kr"]

/-- Hundredths as a decimal fraction of two places. -/
def showHundredths (n : Nat) : String :=
  showNat (n / 100) ++ "." ++ (if n % 100 < 10 then "0" else "") ++ showNat (n % 100)

/-- Hundredths as a decimal fraction of as few places as it takes, one at least. -/
def showFraction (n : Nat) : String :=
  if n % 10 == 0 then showNat (n / 100) ++ "." ++ showNat (n % 100 / 10) else showHundredths n

/-- The encoding that a detector guesses from a sample, if it is sure enough. -/
def detect (detector : Detector) (sampleSize threshold : Nat) (bs : Bytes) : Work (Option String) :=
  match (detector (bs.take sampleSize)).bind (fun g => g.encoding.map (fun name => (name, g.percent))) with
  | none => .of [.debug .encoding "chardet: No encoding detected"] (.ok none)
  | some (name, percent) =>
    if name.isEmpty then .of [.debug .encoding "chardet: No encoding detected"] (.ok none)
    else
      let seen : Entry := .debug .encoding
        ("chardet detected encoding: " ++ name ++ " (confidence: " ++ showHundredths percent ++ ")")
      if percent < threshold then
        .of [seen, .debug .encoding ("chardet confidence " ++ showHundredths percent ++ " below threshold " ++
          showFraction threshold)] (.ok none)
      else .of [seen] (.ok (some name))

/-- A text, and the name of the encoding that it was read in. -/
structure Decoded where
  text : Chars
  /-- The name of the encoding. -/
  encoding : String
  deriving DecidableEq, Repr

/-- The text of bytes in an encoding, if there is such an encoding and they are a text in it. -/
def decodeAs (codecs : SystemCodecs) (name : String) (bs : Bytes) : Except Mishap Decoded :=
  match Codec.ofName? codecs name with
  | none => .error .unknownEncoding
  | some codec =>
    match codec.decode bs with
    | some cs => .ok ⟨cs, name⟩
    | none => .error .undecodable

/-- What is told when bytes are no text in an encoding. -/
def refused (name : String) : Entry :=
  .debug .encoding ("Failed to decode with " ++ name)

/-- The text of bytes in the first encoding of a list that they are a text in. -/
def decodeFirst (codecs : SystemCodecs) (bs : Bytes) : List String → Work Decoded
  | [] => .of [] (.error (.outside (.badValue "Unable to determine text encoding")))
  | name :: rest =>
    match decodeAs codecs name bs with
    | .ok d => .of [.debug .encoding ("Successfully decoded with fallback encoding: " ++ name)] (.ok d)
    | .error .undecodable => do
      Work.tell (refused name)
      decodeFirst codecs bs rest
    | .error m => .of [] (.error (.outside m))

/-- The text of bytes, and its encoding. A signature settles that they are UTF-8. -/
def decode (detector : Detector) (codecs : SystemCodecs) (fallbacks : List String) (bs : Bytes) : Work Decoded :=
  if bs.take 3 == signature then
    match Utf8.decode (bs.drop 3) with
    | .ok cs => .of [] (.ok ⟨cs, "utf-8-sig"⟩)
    | .error _ => .of [] (.error (.outside .undecodable))
  else
    match Utf8.decode bs with
    | .ok cs => .of [] (.ok ⟨cs, "utf-8"⟩)
    | .error fault => do
      Work.tell (.debug .encoding ("Input is not valid UTF-8: " ++ fault.text))
      match ← detect detector sampleSize threshold bs with
      | none => decodeFirst codecs bs fallbacks
      | some name =>
        match decodeAs codecs name bs with
        | .ok d => return d
        | .error _ => do
          Work.tell (.debug .encoding ("Failed to decode with chardet-detected encoding " ++ name))
          decodeFirst codecs bs fallbacks

end MixedScript.Encoding
