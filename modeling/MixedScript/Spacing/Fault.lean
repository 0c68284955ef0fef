import MixedScript.Document.Leaf
import MixedScript.Error

/-!
What can stop the spacing of a document: a boundary without leaves, or a rule that replies with a value of
a foreign type.
-/

namespace MixedScript.Spacing

/-- The questions that rules answer. -/
inductive Question where
  | text | math | wants | join
  deriving DecidableEq, Repr

/-- The public name of a question. -/
def Question.name : Question → String
  | text => "normalize_text"
  | math => "normalize_math"
  | wants => "should_add_space"
  | join => "resolve_text_boundary"

/-- The type of the answer that a question expects. -/
def Question.expected : Question → String
  | text | math => "str"
  | wants => "bool"
  | join => "TextBoundary"

/-- What is wrong with a reply. -/
inductive Complaint where
  /-- The reply as a whole is of a foreign type. -/
  | received (typeName : String)
  /-- One of the runs of a boundary is not a text. -/
  | foreignRuns
  /-- One of the flags of a boundary is not a truth value. -/
  | foreignFlags
  deriving DecidableEq, Repr

/-- What stops the spacing of a document. -/
inductive Fault where
  /-- A container without children at a boundary. -/
  | deadEnd (d : DeadEnd)
  /-- A reply of a foreign type. -/
  | broken (question : Question) (complaint : Complaint)
  deriving DecidableEq, Repr

/-- A fault as an error for the user. -/
def Fault.toError : Fault → Error
  | deadEnd d => .emptyContainer d.kind.name d.edge.name
  | broken q (.received typeName) =>
    .collaborator (q.name ++ " returned " ++ typeName ++ ", expected " ++ q.expected) (some q.name)
  | broken q .foreignRuns => .collaborator (q.name ++ " returned non-string text values") (some q.name)
  | broken q .foreignFlags => .collaborator (q.name ++ " returned non-boolean flags") (some q.name)

end MixedScript.Spacing
