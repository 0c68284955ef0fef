import MixedScript.Spacing.Boundary
import MixedScript.Spacing.MathSource
import MixedScript.Spacing.TextRun

/-!
Spacing rules. The transform asks four questions of its rules and does not trust the answers: a rule that
someone has replaced may reply with a value of a foreign type.
-/

namespace MixedScript.Spacing

/-- An answer of a rule: a value of the type that was asked for, or something foreign, of which only the
name of its type and whether it counts as true are known. -/
inductive Reply (α : Type) where
  /-- A value of the right type. -/
  | value (a : α)
  /-- A value of a foreign type. -/
  | foreign (typeName : String) (truthy : Bool)
  deriving DecidableEq, Repr

/-- Whether a reply counts as true. -/
def Reply.isTrue : Reply Bool → Bool
  | value b => b
  | foreign _ truthy => truthy

/-- An answer about the boundary of two runs, each part of which may be foreign. -/
structure JoinReply where
  /-- The run on the left. -/
  left : Reply Chars
  /-- The run on the right. -/
  right : Reply Chars
  /-- Whether a space goes between the runs. -/
  insertSpace : Reply Bool
  /-- Whether whitespace is still owed. -/
  owed : Reply Bool
  deriving DecidableEq, Repr

/-- The questions that the transform asks. -/
structure Rules where
  /-- A run of text with its gaps tidied. -/
  text : Chars → Reply Chars
  /-- Math source, tidied. -/
  math : Chars → Reply Chars
  /-- Whether a single space belongs between two texts, given whether the source had whitespace. -/
  wants : Chars → Chars → Bool → Reply Bool
  /-- What becomes of the boundary between two runs, given whether whitespace is owed. -/
  join : Chars → Chars → Bool → Reply JoinReply

namespace Rules

/-- Rules for a classification and a decision. Gaps inside a run and boundaries between runs ask the
decision too. -/
def ofDecision (classOf : Char → CharClass) (wants : Chars → Chars → Bool → Reply Bool) : Rules where
  text cs := .value (tidyText classOf (fun l r had => (wants [l] [r] had).isTrue) cs)
  math cs := .value (tidyMath cs)
  wants := wants
  join l r owed :=
    let b := joinRuns wants (.value false) l r owed
    .value ⟨.value b.left, .value b.right, b.insertSpace, .value b.owed⟩

/-- Rules that follow the decision table under a classification. -/
def ofClasses (classOf : Char → CharClass) : Rules :=
  ofDecision classOf (fun l r had => .value (spaceBetween classOf l r had))

/-- The usual rules for mixed CJK and Latin text. -/
def standard : Rules :=
  ofClasses classify

end Rules

/-- Whether a single space belongs between two texts by the usual rules; nothing is decided between two
empty texts. -/
def ask (left right : Chars) (had : Bool) : Option Bool :=
  if left.isEmpty && right.isEmpty then none else some (spaceBetween classify left right had)

end MixedScript.Spacing
