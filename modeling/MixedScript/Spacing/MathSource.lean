import MixedScript.Text.Chars

/-!
Tidying math source: no blank at its ends or at the end of a line, and one space for every run of spaces
and tabs.
-/

namespace MixedScript.Spacing

/-- A line with one space for every run of spaces and tabs; `inRun` says whether one has just been
written. -/
def collapseFrom (inRun : Bool) : Chars → Chars
  | [] => []
  | c :: rest =>
    if Text.isInlineBlank c then
      if inRun then collapseFrom true rest else ' ' :: collapseFrom true rest
    else c :: collapseFrom false rest

/-- A line with one space for every run of spaces and tabs. -/
def collapse (cs : Chars) : Chars :=
  collapseFrom false cs

/-- One line of math source, tidied. -/
def tidyMathLine (line : Chars) : Chars :=
  Chars.stripEnd (collapse line)

/-- Math source, tidied line by line. -/
def tidyMath (cs : Chars) : Chars :=
  Chars.join ['\n'] ((Chars.boundaryLines (Chars.strip cs)).map tidyMathLine)

end MixedScript.Spacing
