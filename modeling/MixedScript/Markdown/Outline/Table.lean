import MixedScript.Markdown.Outline.Line
import MixedScript.Markdown.Token

/-!
Tables of cells between pipes: a header, a row of delimiters that states the alignments, and rows below.
Every row has as many cells as the header, or the whole is no table. The rows of a table stand between outer pipes
or have none; the header decides which.
-/

namespace MixedScript.Markdown

/-- The cells of a row. A pipe behind an odd number of backslashes belongs to its cell. -/
def rawCells (escaped : Bool) : Chars → List Chars
  | [] => [[]]
  | c :: rest =>
    if c == '|' && !escaped then [] :: rawCells false rest
    else
      match rawCells (c == '\\' && !escaped) rest with
      | [] => [[c]]
      | cell :: cells => (c :: cell) :: cells

/-- The cells of a row without blanks around them. -/
def splitCells (row : Chars) : List Chars :=
  (rawCells false (Chars.strip row)).map Chars.strip

/-- The alignment that a cell of the delimiter row states; nothing if it is no such cell. -/
def statedAlignment? (cell : Chars) : Option (Option Alignment) :=
  let left := cell.head? == some ':'
  let right := cell.getLast? == some ':'
  let dashes := (cell.drop (if left then 1 else 0)).takeWhile (· == '-')
  let length := dashes.length + (if left then 1 else 0) + (if right then 1 else 0)
  if cell.isEmpty then some none
  else if dashes.isEmpty || length != cell.length then none
  else
    match left, right with
    | true, true => some (some .center)
    | true, false => some (some .left)
    | false, true => some (some .right)
    | false, false => some none

/-- The text between the outer pipes of a row. -/
def betweenPipes? (line : Chars) : Option Chars := do
  match ← withinIndent? 3 line with
  | '|' :: text =>
    let text := Chars.dropEndWhile Text.isInlineBlank text
    if text.getLast? == some '|' then some text.dropLast else none
  | _ => none

/-- The lines at the start of a text that are rows, and what follows them. -/
def takeRows (isRow : Chars → Bool) : Nat → Chars → List Chars × Chars
  | 0, cs => ([], cs)
  | fuel + 1, cs =>
    if !cs.isEmpty && isRow (firstLine cs) then
      let (rows, rest) := takeRows isRow fuel (afterLine cs)
      (firstLine cs :: rows, rest)
    else ([], cs)

/-- The rows between outer pipes at the start of a text, and what follows them. -/
def takePipedRows (cs : Chars) : List Chars × Chars :=
  takeRows (fun line => (betweenPipes? line).isSome) cs.length cs

/-- A table as written: its header, its delimiters, the rows of its body, and what follows it. -/
structure TableSource where
  header : Chars
  /-- The row of delimiters. -/
  delimiters : Chars
  /-- The rows of the body. -/
  body : List Chars
  /-- What follows the table. -/
  rest : Chars

/-- A table whose rows stand between outer pipes. The row of delimiters needs only the first of them. -/
def pipedTable? (cs : Chars) : Option TableSource := do
  let header ← betweenPipes? (firstLine cs)
  match Chars.trim Text.isInlineBlank (firstLine (afterLine cs)) with
  | '|' :: line =>
    let delimiters := if line.getLast? == some '|' then line.dropLast else line
    let (body, rest) := takePipedRows (afterLine (afterLine cs))
    some ⟨header, delimiters, body.filterMap betweenPipes?, rest.dropWhile (· == '\n')⟩
  | _ => none

/-- A table whose rows hold pipes only between cells. -/
def plainTable? (cs : Chars) : Option TableSource := do
  let header ← withinIndent? 3 (firstLine cs)
  let delimiters := firstLine (afterLine cs)
  if !(header.head?.map Text.isBlank).getD true && (header.drop 1).contains '|' && delimiters.contains '|' then
    let after := afterLine (afterLine cs)
    let (body, rest) := takeRows (fun line => line.contains '|') after.length after
    some ⟨header, delimiters, body, rest.dropWhile (· == '\n')⟩
  else none

/-- The cells of a row under the alignments of the header, as many as there are alignments. -/
def rowTokens? (alignments : List (Option Alignment)) (row : Chars) : Option (List Token) :=
  let cells := splitCells row
  if cells.length == alignments.length then
    some (List.zipWith (fun cell a => .leaf .tableCell cell { align := a }) cells alignments)
  else none

/-- The token of a table as written. -/
def TableSource.token? (t : TableSource) : Option Token := do
  let alignments ← (splitCells t.delimiters).mapM statedAlignment?
  let header ← rowTokens? alignments t.header
  let rows ← t.body.mapM (rowTokens? alignments)
  some (.branch .table
    [.branch .tableHead header {}, .branch .tableBody (rows.map (fun cells => .branch .tableRow cells {})) {}] {})

/-- What the start of a text is where a table may stand. -/
inductive TableAttempt where
  /-- A table, and what follows it. -/
  | table (t : Token) (rest : Chars)
  /-- Lines of a paragraph, and what follows them. -/
  | lines (lines : List Chars) (rest : Chars)

/-- The table at the start of a text. If rows between outer pipes make no table, all that stand there together
are lines of a paragraph; of other lines only the first is. -/
def TableAttempt.ofText (cs : Chars) : TableAttempt :=
  if (betweenPipes? (firstLine cs)).isSome then
    match (pipedTable? cs).bind (fun t => t.token?.map (·, t.rest)) with
    | some (t, rest) => table t rest
    | none =>
      let (rows, rest) := takePipedRows cs
      lines rows rest
  else
    match (plainTable? cs).bind (fun t => t.token?.map (·, t.rest)) with
    | some (t, rest) => table t rest
    | none => lines [firstLine cs] (afterLine cs)

end MixedScript.Markdown
