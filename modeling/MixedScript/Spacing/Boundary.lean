import MixedScript.Spacing.Decision

/-!
The boundary between two runs of text. Whitespace next to it is trimmed from both; if both still hold
something visible the decision table says whether a space goes between them, and a run of nothing but
whitespace hands its space on.
-/

namespace MixedScript.Spacing

/-- The outcome at a boundary; `Space` is the type in which the decision about the space is given. -/
structure Boundary (Space : Type) where
  /-- The run on the left. -/
  left : Chars
  /-- The run on the right. -/
  right : Chars
  /-- Whether a space of its own goes between the runs. -/
  insertSpace : Space
  /-- Whether written whitespace is still owed to the next boundary. -/
  owed : Bool
  deriving DecidableEq, Repr

/-- A run without spaces and tabs at its end. -/
def trimRight (cs : Chars) : Chars :=
  Chars.dropEndWhile Text.isInlineBlank cs

/-- A run without spaces and tabs at its start. -/
def trimLeft (cs : Chars) : Chars :=
  cs.dropWhile Text.isInlineBlank

/-- Joins two runs: `wants` decides where both are visible, `no` is the decision for no space, and `owed`
says whether an earlier boundary still owes whitespace. -/
def joinRuns {Space : Type} (wants : Chars → Chars → Bool → Space) (no : Space) (left right : Chars)
    (owed : Bool) : Boundary Space :=
  let l := trimRight left
  let r := trimLeft right
  let had := l != left || r != right
  match l.isEmpty, r.isEmpty with
  | false, false => ⟨l, r, wants l r had, false⟩
  | false, true => ⟨l, [], no, had⟩
  | true, false => ⟨if had || owed then [' '] else [], r, no, false⟩
  | true, true => ⟨[], [], no, had || owed⟩

end MixedScript.Spacing
