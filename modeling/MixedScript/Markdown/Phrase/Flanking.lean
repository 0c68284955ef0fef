import MixedScript.Text.Blank
import MixedScript.Text.Alphanumeric

/-!
Flanking: what stands around a run of delimiters decides whether it may open or close emphasis. The start and
the end of the text count as blank, and all that is neither blank nor a letter or number as punctuation.
-/

namespace MixedScript.Markdown

/-- Whether a neighbour of a run is blank. -/
def blankBeside (c : Option Char) : Bool :=
  (c.map Text.isBlank).getD true

/-- Whether a neighbour of a run is punctuation. -/
def punctuationBeside (c : Option Char) : Bool :=
  (c.map (fun c => !Text.isBlank c && !Text.isAlphanumeric c)).getD false

/-- Whether a run leans on what follows it. -/
def isLeftFlanking (before after : Option Char) : Bool :=
  !blankBeside after && (!punctuationBeside after || blankBeside before || punctuationBeside before)

/-- Whether a run leans on what stands before it. -/
def isRightFlanking (before after : Option Char) : Bool :=
  !blankBeside before && (!punctuationBeside before || blankBeside after || punctuationBeside after)

/-- Whether a run may open emphasis. Underscores may not inside a word. -/
def opensBetween (mark : Char) (before after : Option Char) : Bool :=
  isLeftFlanking before after &&
    (mark != '_' || !isRightFlanking before after || punctuationBeside before)

/-- Whether a run may close emphasis. Underscores may not inside a word. -/
def closesBetween (mark : Char) (before after : Option Char) : Bool :=
  isRightFlanking before after &&
    (mark != '_' || !isLeftFlanking before after || punctuationBeside after)

end MixedScript.Markdown
