import MixedScript.Markdown.Url

/-!
Targets of links: a destination, in angle brackets or bare, and an optional title in quotes or parentheses.
Each reader returns what it has read together with the rest of the text.
-/

namespace MixedScript.Markdown

/-- Whether a character is punctuation of ASCII, which a backslash takes literally. -/
def isAsciiPunctuation (c : Char) : Bool :=
  ('!' ≤ c && c ≤ '/') || (':' ≤ c && c ≤ '@') || ('[' ≤ c && c ≤ '\x60') || ('\x7b' ≤ c && c ≤ '~')

/-- A text with each backslash before punctuation dropped; `escaped` says that one was just read. -/
def unescapeFrom (escaped : Bool) : Chars → Chars
  | [] => if escaped then ['\\'] else []
  | c :: rest =>
    if escaped then
      if isAsciiPunctuation c then c :: unescapeFrom false rest
      else '\\' :: c :: unescapeFrom false rest
    else if c == '\\' then unescapeFrom true rest
    else c :: unescapeFrom false rest

/-- A text with each backslash before punctuation dropped. -/
def unescape (cs : Chars) : Chars :=
  unescapeFrom false cs

/-- The text up to the first character of `ends` that is not escaped, and what follows that character;
nothing if a character of `barred` stands before it, which a backslash allows unless it is a line feed. The
text is kept as written. -/
def readUntil? (ends barred : List Char) (escaped : Bool) : Chars → Option (Chars × Chars)
  | [] => none
  | c :: rest =>
    if escaped && !(c == '\n' && barred.contains c) then
      (readUntil? ends barred false rest).map (fun (t, r) => (c :: t, r))
    else if ends.contains c then some ([], rest)
    else if barred.contains c then none
    else (readUntil? ends barred (c == '\\') rest).map (fun (t, r) => (c :: t, r))

/-- A text without the spaces and tabs at its start. -/
def dropInlineBlank (cs : Chars) : Chars :=
  cs.dropWhile Text.isInlineBlank

/-- A text without the spaces and tabs, and one line feed among them, at its start. -/
def dropGap (cs : Chars) : Chars :=
  match dropInlineBlank cs with
  | '\n' :: rest => dropInlineBlank rest
  | rest => rest

/-- A destination in angle brackets, of which the first has been read. -/
def bracketDestination? (cs : Chars) : Option (Chars × Chars) :=
  readUntil? ['>'] ['<', '\n'] false cs

/-- A bare destination: it ends before a blank or a control character, and before a closing parenthesis that
none in the destination opens. -/
def bareDestination (opened : Nat) (escaped : Bool) : Chars → Chars × Chars
  | [] => ([], [])
  | c :: rest =>
    if c ≤ ' ' || c == '\x7f' then ([], c :: rest)
    else if escaped then
      let (t, r) := bareDestination opened false rest
      (c :: t, r)
    else if c == ')' then
      match opened with
      | 0 => ([], c :: rest)
      | opened + 1 =>
        let (t, r) := bareDestination opened false rest
        (c :: t, r)
    else
      let (t, r) := bareDestination (if c == '(' then opened + 1 else opened) (c == '\\') rest
      (c :: t, r)

/-- The title at the start of a text. Blanks have to stand before it. -/
def title? (cs : Chars) : Option (Chars × Chars) :=
  let gap := cs.takeWhile (fun c => Text.isInlineBlank c || c == '\n')
  if gap.isEmpty then none
  else
    match cs.drop gap.length with
    | '\x22' :: rest => (readUntil? ['\x22'] [] false rest).map (fun (t, r) => (unescape t, r))
    | '\x27' :: rest => (readUntil? ['\x27'] [] false rest).map (fun (t, r) => (unescape t, r))
    | '(' :: rest => (readUntil? [')'] ['('] false rest).map (fun (t, r) => (unescape t, r))
    | _ => none

/-- A target: the destination in its encoded form and the title, if it is not empty. -/
structure Target where
  /-- The destination. -/
  url : Chars
  title : Option Chars
  deriving DecidableEq, Repr

/-- The target of a destination as written and a title. -/
def Target.ofSource (destination : Chars) (title : Option Chars) : Target :=
  ⟨encodeUrl (unescape destination), title.filter (fun t => !t.isEmpty)⟩

/-- Whether an opening parenthesis of a bare destination is left without its partner. -/
def isUnbalanced (opened : Nat) (escaped : Bool) : Chars → Bool
  | [] => opened != 0
  | c :: rest =>
    if escaped then isUnbalanced opened false rest
    else if c == '(' then isUnbalanced (opened + 1) false rest
    else if c == ')' then isUnbalanced (opened - 1) false rest
    else isUnbalanced opened (c == '\\') rest

/-- The destination at the start of a text, after blanks and at most one line feed. -/
def destination? (cs : Chars) : Option (Chars × Chars) :=
  match dropGap cs with
  | '<' :: rest => bracketDestination? rest
  | rest =>
    let (t, r) := bareDestination 0 false rest
    if isUnbalanced 0 false t then none else some (t, r)

/-- The target of an inline link, whose opening parenthesis has been read, to the closing one. -/
def inlineTarget? (cs : Chars) : Option (Target × Chars) := do
  let (destination, rest) ← destination? cs
  let (title, rest) :=
    match title? rest with
    | some (t, r) => (some t, r)
    | none => (none, rest)
  match rest.dropWhile Text.isBlank with
  | ')' :: rest => some (Target.ofSource destination title, rest)
  | _ => none

/-- What follows the end of a line, if nothing but spaces and tabs stands before it. -/
def lineEnd? (cs : Chars) : Option Chars :=
  match dropInlineBlank cs with
  | '\n' :: rest => some rest
  | _ => none

/-- Whether an empty line stands in a text. -/
def hasBlankLine : Chars → Bool
  | [] => false
  | c :: rest => (c == '\n' && (dropInlineBlank rest).head? == some '\n') || hasBlankLine rest

/-- The target of a definition, whose colon has been read, to the end of its line. There has to be a
destination, if only a pair of angle brackets. A title that does not end its line is none. -/
def definitionTarget? (cs : Chars) : Option (Target × Chars) := do
  let (destination, rest) ← destination? cs
  if rest.length == (dropGap cs).length then none
  let titled := do
    let (t, r) ← title? rest
    let after ← lineEnd? r
    if hasBlankLine (rest.take (rest.length - r.length)) then none else some (t, after)
  match titled with
  | some (t, after) => some (Target.ofSource destination (some t), after)
  | none => do
    let after ← lineEnd? rest
    some (Target.ofSource destination none, after)

end MixedScript.Markdown
