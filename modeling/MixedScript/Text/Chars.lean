import MixedScript.Text.Blank

/-!
Texts as lists of characters, and the cuts, joins and counts that the rest of the library needs.
-/

namespace MixedScript

/-- A text, one code point an element. -/
abbrev Chars := List Char

namespace Chars

/-- A text without the characters at its end that satisfy `p`. -/
def dropEndWhile (p : Char → Bool) : Chars → Chars
  | [] => []
  | c :: rest =>
    match dropEndWhile p rest with
    | [] => if p c then [] else [c]
    | kept => c :: kept

/-- The characters at the end of a text that satisfy `p`. -/
def takeEndWhile (p : Char → Bool) (cs : Chars) : Chars :=
  cs.drop (dropEndWhile p cs).length

/-- A text without the characters at either end that satisfy `p`. -/
def trim (p : Char → Bool) (cs : Chars) : Chars :=
  dropEndWhile p (cs.dropWhile p)

/-- A text without blank characters at either end. -/
def strip (cs : Chars) : Chars :=
  trim Text.isBlank cs

/-- A text without blank characters at its end. -/
def stripEnd (cs : Chars) : Chars :=
  dropEndWhile Text.isBlank cs

/-- The parts of a text between the occurrences of one character; there is always at least one. -/
def splitAt (separator : Char) : Chars → List Chars
  | [] => [[]]
  | c :: rest =>
    if c == separator then [] :: splitAt separator rest
    else
      match splitAt separator rest with
      | [] => [[c]]
      | part :: parts => (c :: part) :: parts

/-- The lines of a text between line feeds. -/
def lines (cs : Chars) : List Chars :=
  splitAt '\n' cs

/-- The texts one after the other with a separator between them. -/
def join (separator : Chars) : List Chars → Chars
  | [] => []
  | [cs] => cs
  | cs :: rest => cs ++ separator ++ join separator rest

/-- The lines of a text, each with the boundary that ends it. A text that ends in a boundary has no empty
last line. -/
def linesWithEnds : Chars → List Chars
  | [] => []
  | '\r' :: '\n' :: rest => ['\r', '\n'] :: linesWithEnds rest
  | c :: rest =>
    if Text.isLineBoundary c then [c] :: linesWithEnds rest
    else
      match linesWithEnds rest with
      | [] => [[c]]
      | line :: later => (c :: line) :: later

/-- The lines of a text at every line boundary, without the boundaries. -/
def boundaryLines (cs : Chars) : List Chars :=
  (linesWithEnds cs).map (List.filter (fun c => !Text.isLineBoundary c))

/-- The text with `replacement` for every occurrence of one character. -/
def replaceChar (old : Char) (replacement : Chars) (cs : Chars) : Chars :=
  cs.flatMap (fun c => if c == old then replacement else [c])

/-- The text with line feeds for carriage returns and for pairs of both. -/
def unifyLineEnds : Chars → Chars
  | [] => []
  | '\r' :: '\n' :: rest => '\n' :: unifyLineEnds rest
  | '\r' :: rest => '\n' :: unifyLineEnds rest
  | c :: rest => c :: unifyLineEnds rest

/-- Length of the longest run of a character, given the run that ends before the text and the longest so
far. -/
def longestRunFrom (c : Char) : Nat → Nat → Chars → Nat
  | _, longest, [] => longest
  | current, longest, x :: rest =>
    if x == c then longestRunFrom c (current + 1) (max longest (current + 1)) rest
    else longestRunFrom c 0 longest rest

/-- Length of the longest run of a character in a text. -/
def longestRun (c : Char) (cs : Chars) : Nat :=
  longestRunFrom c 0 0 cs

/-- What follows `start` in a text that begins with it. -/
def after? (start cs : Chars) : Option Chars :=
  match start, cs with
  | [], rest => some rest
  | _ :: _, [] => none
  | a :: start, c :: cs => if a == c then after? start cs else none

/-- Whether a text occurs inside another. -/
def occursIn (part : Chars) : Chars → Bool
  | [] => part.isEmpty
  | c :: rest => (after? part (c :: rest)).isSome || occursIn part rest

/-- The text before the first occurrence of `mark` and the text after it. -/
def cutAt? (mark : Chars) : Chars → Option (Chars × Chars)
  | [] => if mark.isEmpty then some ([], []) else none
  | c :: rest =>
    match after? mark (c :: rest) with
    | some later => some ([], later)
    | none => (cutAt? mark rest).map (fun cut => (c :: cut.1, cut.2))

/-- The text of a natural number in decimal digits. -/
def ofNat (n : Nat) : Chars :=
  Nat.toDigits 10 n

/-- The text of an integer in decimal digits. -/
def ofInt (i : Int) : Chars :=
  if i < 0 then '-' :: ofNat i.natAbs else ofNat i.natAbs

end Chars

end MixedScript
