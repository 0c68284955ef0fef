import MixedScript.Encoding.Utf8
import MixedScript.Markdown.Entity
import MixedScript.Text.Digits

/-!
Destinations as links carry them. Character references are resolved and everything outside the usual
characters is percent-encoded; for the tree, encoded text outside ASCII is made readable again.
-/

namespace MixedScript.Markdown

/-- Code points that numeric references replace by others: the null character, and the controls that old
pages use for letters of their code page. -/
def replacedReferences : List (Nat × Nat) := [
  (0x0, 0xFFFD), (0xD, 0xD), (0x80, 0x20AC), (0x81, 0x81), (0x82, 0x201A), (0x83, 0x192), (0x84, 0x201E),
  (0x85, 0x2026), (0x86, 0x2020), (0x87, 0x2021), (0x88, 0x2C6), (0x89, 0x2030), (0x8A, 0x160),
  (0x8B, 0x2039), (0x8C, 0x152), (0x8D, 0x8D), (0x8E, 0x17D), (0x8F, 0x8F), (0x90, 0x90), (0x91, 0x2018),
  (0x92, 0x2019), (0x93, 0x201C), (0x94, 0x201D), (0x95, 0x2022), (0x96, 0x2013), (0x97, 0x2014),
  (0x98, 0x2DC), (0x99, 0x2122), (0x9A, 0x161), (0x9B, 0x203A), (0x9C, 0x153), (0x9D, 0x9D), (0x9E, 0x17E),
  (0x9F, 0x178)]

/-- Code points that numeric references leave out. -/
def isDroppedReference (n : Nat) : Bool :=
  (1 ≤ n && n ≤ 8) || n == 0xB || (0xE ≤ n && n ≤ 0x1F) || (0x7F ≤ n && n ≤ 0x9F) ||
    (0xFDD0 ≤ n && n ≤ 0xFDEF) || (n % 0x10000 == 0xFFFE || n % 0x10000 == 0xFFFF)

/-- What a numeric reference stands for. -/
def numericReference (n : Nat) : Chars :=
  match replacedReferences.lookup n with
  | some m => [Char.ofNat m]
  | none =>
    if (0xD800 ≤ n && n ≤ 0xDFFF) || 0x10FFFF < n then ['\uFFFD']
    else if isDroppedReference n then []
    else [Char.ofNat n]

/-- What a name with a semicolon stands for. -/
def namedReference? (name : Chars) : Option Chars :=
  match name with
  | [] => none
  | first :: _ =>
    ((referencesFor first).find? (fun entry => entry.1.toList == name)).map (fun entry => entry.2.map Char.ofNat)

/-- The longest start of a name, of two characters at least, that is recognised without a semicolon, and
what follows it. -/
def bareReference? (name : Chars) : Nat → Option (Chars × Chars)
  | 0 => none
  | n + 1 =>
    if n + 1 < 2 then none
    else if bareReferences.any (fun b => b.toList == name.take (n + 1)) then
      (namedReference? (name.take (n + 1))).map (fun cs => (cs, name.drop (n + 1)))
    else bareReference? name n

/-- Whether a character may stand in the name of a reference. -/
def isNameChar (c : Char) : Bool :=
  !(c == '\t' || c == '\n' || c == '\x0c' || c == ' ' || c == '<' || c == '&' || c == '#' || c == ';')

/-- The text of a reference that starts after an ampersand, and the number of characters it takes with its
semicolon. -/
def reference? (cs : Chars) : Option (Chars × Nat) :=
  match cs with
  | '#' :: rest =>
    let ds := rest.takeWhile Char.isDigit
    if !ds.isEmpty && ds.length ≤ 7 && (rest.drop ds.length).head? == some ';' then
      some (numericReference (Text.decimalValue ds), ds.length + 2)
    else
      match rest with
      | x :: more =>
        let hs := more.takeWhile Text.isHexDigit
        if (x == 'x' || x == 'X') && !hs.isEmpty && (more.drop hs.length).head? == some ';' then
          some (numericReference (Text.valueIn 16 hs), hs.length + 3)
        else none
      | [] => none
  | _ =>
    let name := cs.takeWhile isNameChar
    if !name.isEmpty && name.length ≤ 32 && (cs.drop name.length).head? == some ';' then
      match namedReference? name with
      | some text => some (text, name.length + 1)
      | none =>
        match bareReference? name name.length with
        | some (text, rest) => some (text ++ rest ++ [';'], name.length + 1)
        | none => some ('&' :: name ++ [';'], name.length + 1)
    else none

/-- A text with its character references resolved; `skip` characters belong to a reference that was read
before. -/
def resolveReferencesFrom : Nat → Chars → Chars
  | _, [] => []
  | skip + 1, _ :: rest => resolveReferencesFrom skip rest
  | 0, c :: rest =>
    if c == '&' then
      match reference? rest with
      | some (text, length) => text ++ resolveReferencesFrom length rest
      | none => c :: resolveReferencesFrom 0 rest
    else c :: resolveReferencesFrom 0 rest

/-- A text with its character references resolved. -/
def resolveReferences (cs : Chars) : Chars :=
  resolveReferencesFrom 0 cs

/-- Characters that stand for themselves in a destination. -/
def isUrlChar (c : Char) : Bool :=
  c.isAlphanum || ['_', '.', '-', '~', ':', '/', '?', '#', '@', '!', '$', '&', '(', ')', '*', '+', ',', ';', '=',
    '%'].contains c

/-- A byte as a percent sign and two capital digits. -/
def percentByte (b : UInt8) : Chars :=
  '%' :: (Text.hexDigits 2 b.toNat).map Char.toUpper

/-- A character of a destination, percent-encoded where it has to be. -/
def percentChar (c : Char) : Chars :=
  if isUrlChar c then [c] else (String.utf8EncodeChar c).flatMap percentByte

/-- A destination in its encoded form. -/
def encodeUrl (cs : Chars) : Chars :=
  (resolveReferences cs).flatMap percentChar

/-- A percent sign and two digits that stand for a byte beyond ASCII at the start of a text. -/
def highByte? : Chars → Option UInt8
  | '%' :: a :: b :: _ =>
    ((Text.hexNumber? 2 [a, b]).filter (0x80 ≤ ·)).map UInt8.ofNat
  | _ => none

/-- A run of encoded bytes beyond ASCII, decoded if it is a text and otherwise as it was written. -/
def restoreRun (bytes : Encoding.Bytes) (source : Chars) : Chars :=
  match Encoding.Utf8.decode bytes with
  | .ok cs => cs
  | .error _ => source

/-- Restores the rest of a destination, given the bytes of the run before it, the run as it was written, and
the number of characters that belong to the run already. -/
def restoreFrom (bytes : Encoding.Bytes) (source : Chars) : Nat → Chars → Chars
  | _, [] => restoreRun bytes source
  | skip + 1, _ :: rest => restoreFrom bytes source skip rest
  | 0, c :: rest =>
    match highByte? (c :: rest) with
    | some b => restoreFrom (bytes ++ [b]) (source ++ c :: rest.take 2) 2 rest
    | none => restoreRun bytes source ++ c :: restoreFrom [] [] 0 rest

/-- A destination with its encoded text outside ASCII made readable. -/
def restoreUrl (cs : Chars) : Chars :=
  restoreFrom [] [] 0 cs

end MixedScript.Markdown
