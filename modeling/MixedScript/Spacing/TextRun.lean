import MixedScript.Spacing.Decision

/-!
Tidying a run of text. The run is a row of visible characters with gaps between them; a gap on one line
next to a CJK or full-width character becomes one space or nothing, and every other gap stays as written.
-/

namespace MixedScript.Spacing

/-- Whether a character is neither a space, a tab nor the end of a line. -/
def isVisible (c : Char) : Bool :=
  !(c == ' ' || c == '\t' || c == '\r' || c == '\n')

/-- What stands between two visible characters of one line after tidying. -/
def tidyGap (classOf : Char → CharClass) (wants : Char → Char → Bool → Bool) (left : Char) (gap : Chars)
    (right : Char) : Chars :=
  if CharClass.isSpaced (classOf left) || CharClass.isSpaced (classOf right) then
    if wants left right (!gap.isEmpty) then [' '] else []
  else gap

/-- Tidies the rest of a run, given the visible character that the line had last and the spaces and tabs
read since. -/
def tidyFrom (classOf : Char → CharClass) (wants : Char → Char → Bool → Bool) :
    Option Char → Chars → Chars → Chars
  | _, gap, [] => gap
  | before, gap, c :: rest =>
    if Text.isInlineBlank c then tidyFrom classOf wants before (gap ++ [c]) rest
    else if isVisible c then
      let filled := match before with
        | some b => tidyGap classOf wants b gap c
        | none => gap
      filled ++ c :: tidyFrom classOf wants (some c) [] rest
    else gap ++ c :: tidyFrom classOf wants none [] rest

/-- A run of text with its gaps tidied; the whitespace at its ends and around line ends stays. -/
def tidyText (classOf : Char → CharClass) (wants : Char → Char → Bool → Bool) (cs : Chars) : Chars :=
  tidyFrom classOf wants none [] cs

end MixedScript.Spacing
