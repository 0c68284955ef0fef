import MixedScript.Text.Blank

/-!
Classes of characters. Spacing looks at the class of the two characters on either side of a gap, never at
the characters themselves.
-/

namespace MixedScript

/-- The class of a character. -/
inductive CharClass where
  /-- Han ideographs, kana, Hangul, Bopomofo, radicals and enclosed forms. -/
  | cjk
  /-- Full-width punctuation, which is never spaced. -/
  | wide
  /-- ASCII letters and digits, accented Latin letters and symbols that behave like words. -/
  | latin
  /-- Opening brackets. -/
  | opening
  /-- Closing brackets. -/
  | closing
  /-- ASCII punctuation of sentences. -/
  | sentence
  /-- Any blank character. -/
  | blank
  /-- Everything else: quotes, emoji, other scripts. -/
  | other
  deriving DecidableEq, Repr

/-- The public name of a class. -/
def CharClass.name : CharClass → String
  | cjk => "cjk"
  | wide => "wide"
  | latin => "latin"
  | opening => "open"
  | closing => "close"
  | sentence => "punct"
  | blank => "space"
  | other => "other"

namespace Spacing

/-- Blocks of CJK characters: radicals, kana, Bopomofo, Hangul, strokes, enclosed forms, ideographs. -/
def cjkRanges : List (Nat × Nat) := [
  (0x2E80, 0x2EFF), (0x2F00, 0x2FDF), (0x3040, 0x309F), (0x30A0, 0x30FF), (0x3100, 0x312F),
  (0x3130, 0x318F), (0x31A0, 0x31BF), (0x31C0, 0x31EF), (0x31F0, 0x31FF), (0x3200, 0x32FF),
  (0x3300, 0x33FF), (0x3400, 0x4DBF), (0x4E00, 0x9FFF), (0xAC00, 0xD7AF), (0xF900, 0xFAFF),
  (0x20000, 0x2FA1F)]

/-- Blocks of full-width punctuation: CJK symbols, compatibility forms, half-width and full-width forms. -/
def wideRanges : List (Nat × Nat) := [(0x3000, 0x303F), (0xFE30, 0xFE4F), (0xFF00, 0xFFEF)]

/-- Accented letters of Latin script. -/
def accentedRanges : List (Nat × Nat) := [(0xC0, 0xD6), (0xD8, 0xF6), (0xF8, 0x24F)]

/-- Symbols that behave like words. -/
def wordSymbols : List Char :=
  ['@', '#', '$', '%', '^', '&', '*', '-', '+', '=', '|', '/', '\\', '~', '_']

def openingBrackets : List Char := ['(', '[', '\x7b']

def closingBrackets : List Char := [')', ']', '\x7d']

def sentencePunctuation : List Char := ['.', ',', ';', ':', '!', '?']

/-- The class of a character: the first that has it, in the order in which they are tried. -/
def classify (c : Char) : CharClass :=
  if Text.isBlank c then .blank
  else if Text.inRanges wideRanges c.toNat then .wide
  else if Text.inRanges cjkRanges c.toNat then .cjk
  else if c.isAlphanum || wordSymbols.contains c then .latin
  else if Text.inRanges accentedRanges c.toNat then .latin
  else if openingBrackets.contains c then .opening
  else if closingBrackets.contains c then .closing
  else if sentencePunctuation.contains c then .sentence
  else .other

/-- Whether a character is CJK, punctuation excepted. -/
def isCjk (c : Char) : Bool :=
  classify c == .cjk

/-- Whether any character of a text is CJK. -/
def hasCjk (cs : List Char) : Bool :=
  cs.any isCjk

end Spacing

end MixedScript
