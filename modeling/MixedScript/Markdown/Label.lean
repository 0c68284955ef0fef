import MixedScript.Text.Chars
import MixedScript.Text.LetterCase

/-!
Labels of references in their normal form.
-/

namespace MixedScript.Markdown

/-- A text with one space for every run of blank characters; `inRun` says whether one was just written. -/
def collapseBlank (inRun : Bool) : Chars → Chars
  | [] => []
  | c :: rest =>
    if Text.isBlank c then
      if inRun then collapseBlank true rest else ' ' :: collapseBlank true rest
    else c :: collapseBlank false rest

/-- The normal form of a label: single spaces, none at the ends, and letters without regard to case. -/
def normalLabel (cs : Chars) : Chars :=
  Text.toUpper (Text.toLower (Chars.strip (collapseBlank false cs)))

end MixedScript.Markdown
