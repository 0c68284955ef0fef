import MixedScript.Spacing.CharClass
import MixedScript.Text.Chars

/-!
The decision table: whether a gap holds one space or nothing, given the classes on either side and whether
the source had whitespace there.
-/

namespace MixedScript.Spacing

/-- Whether a single space belongs between characters of two classes. Nothing stands next to full-width
punctuation or between CJK characters; a space stands between CJK and Latin text, on the outer side of a
bracket too; between CJK and anything else, and between other classes, the source decides where it may. -/
def wantsSpace (left right : CharClass) (had : Bool) : Bool :=
  match left, right with
  | .blank, _ | _, .blank | .wide, _ | _, .wide => false
  | .cjk, .cjk => false
  | .cjk, .latin | .cjk, .opening => true
  | .cjk, .other => had
  | .cjk, _ => false
  | .latin, .cjk | .closing, .cjk => true
  | .sentence, .cjk | .other, .cjk => had
  | _, .cjk => false
  | _, _ => had

/-- The last character of a text. -/
def lastChar? (cs : Chars) : Option Char :=
  cs.getLast?

/-- Whether a single space belongs between two texts. Only the characters next to the gap matter; beside
an empty text the source decides. -/
def spaceBetween (classOf : Char → CharClass) (left right : Chars) (had : Bool) : Bool :=
  match lastChar? left, right.head? with
  | some l, some r => wantsSpace (classOf l) (classOf r) had
  | _, _ => had

/-- Whether gaps next to characters of a class are tidied: those of CJK text and of full-width punctuation. -/
def CharClass.isSpaced (c : CharClass) : Bool :=
  c == .cjk || c == .wide

end MixedScript.Spacing
