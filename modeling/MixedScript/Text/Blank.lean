import MixedScript.Text.Ranges

/-!
Whitespace. Three sets are in use: every blank character of every script, the space and the tab that may
stand between words of one line, and the characters that end a line.
-/

namespace MixedScript.Text

/-- Code points of blank characters: the ASCII controls with a spacing meaning, the information
separators, and the spaces and separators of every script. -/
def blankRanges : List (Nat × Nat) := [
  (0x9, 0xD), (0x1C, 0x20), (0x85, 0x85), (0xA0, 0xA0), (0x1680, 0x1680), (0x2000, 0x200A),
  (0x2028, 0x2029), (0x202F, 0x202F), (0x205F, 0x205F), (0x3000, 0x3000)]

/-- Whether a character is blank in any script. -/
def isBlank (c : Char) : Bool :=
  inRanges blankRanges c.toNat

/-- A space or a tab. -/
def isInlineBlank (c : Char) : Bool :=
  c == ' ' || c == '\t'

/-- A character that ends a line; a carriage return and a line feed together end one line. -/
def isLineBoundary (c : Char) : Bool :=
  inRanges [(0xA, 0xD), (0x1C, 0x1E), (0x85, 0x85), (0x2028, 0x2029)] c.toNat

end MixedScript.Text
