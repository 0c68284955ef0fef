import MixedScript.Text.Digits

/-!
Strings and keys of TOML. Basic strings know escapes, literal strings do not; both may run over several lines
when they stand in three quotes.
-/

namespace MixedScript.Toml

/-- Whether a character may stand in text of one line: any but the control characters, of which the tab may. -/
def isLineChar (c : Char) : Bool :=
  c == '\t' || (0x20 ≤ c.toNat && c.toNat != 0x7F)

/-- Whether a character may stand in text of several lines. -/
def isTextChar (c : Char) : Bool :=
  c == '\n' || isLineChar c

/-- A text without the spaces and tabs at its start. -/
def skipBlanks (cs : Chars) : Chars :=
  cs.dropWhile Text.isInlineBlank

/-- A text without the spaces, tabs and line feeds at its start. -/
def skipLines (cs : Chars) : Chars :=
  cs.dropWhile (fun c => c == '\n' || Text.isInlineBlank c)

/-- What an escape of one character stands for. -/
def escapes : List (Char × Char) := [
  ('b', '\x08'), ('t', '\t'), ('n', '\n'), ('f', '\x0c'), ('r', '\r'), ('\x22', '\x22'), ('\\', '\\')]

/-- The character of a code point in `n` digits of base sixteen, and what follows. -/
def readCodePoint (n : Nat) (cs : Chars) : Option (Char × Chars) := do
  let value ← Text.hexNumber? n cs
  if value < 0xD800 || (0xDFFF < value && value < 0x110000) then some (Char.ofNat value, cs.drop n) else none

/-- What an escape stands for after its backslash, and what follows. Before the end of a line in a text of
several lines a backslash takes away the end and all blanks after it. -/
def readEscape (severalLines : Bool) (cs : Chars) : Option (Chars × Chars) :=
  match cs with
  | [] => none
  | c :: rest =>
    if severalLines && c == '\n' then some ([], skipLines rest)
    else if severalLines && (c == ' ' || c == '\t') then
      match skipBlanks rest with
      | [] => some ([], [])
      | '\n' :: rest => some ([], skipLines rest)
      | _ => none
    else if c == 'u' then (readCodePoint 4 rest).map (fun (c, rest) => ([c], rest))
    else if c == 'U' then (readCodePoint 8 rest).map (fun (c, rest) => ([c], rest))
    else (escapes.lookup c).map (fun c => ([c], rest))

/-- The content of a basic string after its opening quotes, and what follows its closing ones. -/
def readBasic (severalLines : Bool) : Nat → Chars → Option (Chars × Chars)
  | 0, _ => none
  | _, [] => none
  | fuel + 1, c :: rest =>
    if c == '\x22' then
      if !severalLines then some ([], rest)
      else
        match rest with
        | '\x22' :: '\x22' :: rest => some ([], rest)
        | _ => (readBasic severalLines fuel rest).map (fun (cs, rest) => (c :: cs, rest))
    else if c == '\\' then do
      let (escaped, rest) ← readEscape severalLines rest
      let (cs, rest) ← readBasic severalLines fuel rest
      some (escaped ++ cs, rest)
    else if if severalLines then isTextChar c else isLineChar c then
      (readBasic severalLines fuel rest).map (fun (cs, rest) => (c :: cs, rest))
    else none

/-- The content of a literal string after its opening quotes, and what follows its closing ones. -/
def readLiteral (severalLines : Bool) (cs : Chars) : Option (Chars × Chars) := do
  let quotes := if severalLines then ['\x27', '\x27', '\x27'] else ['\x27']
  let (content, rest) ← Chars.cutAt? quotes cs
  if content.all (if severalLines then isTextChar else isLineChar) then some (content, rest) else none

/-- A string of several lines whose content has been read, with up to two more quotes that belong to it. -/
def withLastQuotes (quote : Char) (content rest : Chars) : Chars × Chars :=
  let extra := (rest.take 2).takeWhile (· == quote)
  (content ++ extra, rest.drop extra.length)

/-- A text without the line feed at its start. -/
def skipLineEnd : Chars → Chars
  | '\n' :: rest => rest
  | cs => cs

/-- The content of a string at the start of a text, and what follows it. -/
def readString (cs : Chars) : Option (Chars × Chars) :=
  match cs with
  | '\x22' :: '\x22' :: '\x22' :: rest =>
    (readBasic true (rest.length + 1) (skipLineEnd rest)).map (fun (content, rest) => withLastQuotes '\x22' content rest)
  | '\x27' :: '\x27' :: '\x27' :: rest =>
    (readLiteral true (skipLineEnd rest)).map (fun (content, rest) => withLastQuotes '\x27' content rest)
  | '\x22' :: rest => readBasic false (rest.length + 1) rest
  | '\x27' :: rest => readLiteral false rest
  | _ => none

/-- Whether a character may stand in a key without quotes. -/
def isBareKeyChar (c : Char) : Bool :=
  c.isAlphanum || c == '-' || c == '_'

/-- One part of a key, and what follows it. A string as a part stands on one line. -/
def readKeyPart (cs : Chars) : Option (String × Chars) :=
  match cs with
  | '\x22' :: rest => (readBasic false (rest.length + 1) rest).map (fun (part, rest) => (String.ofList part, rest))
  | '\x27' :: rest => (readLiteral false rest).map (fun (part, rest) => (String.ofList part, rest))
  | _ =>
    let part := cs.takeWhile isBareKeyChar
    if part.isEmpty then none else some (String.ofList part, cs.drop part.length)

/-- The parts of a key between points, and what follows the key and the blanks after it. -/
def readKeyParts : Nat → Chars → Option (List String × Chars)
  | 0, _ => none
  | fuel + 1, cs => do
    let (part, rest) ← readKeyPart cs
    match skipBlanks rest with
    | '.' :: rest =>
      let (parts, rest) ← readKeyParts fuel (skipBlanks rest)
      some (part :: parts, rest)
    | rest => some ([part], rest)

/-- A key, and what follows it. -/
def readKey (cs : Chars) : Option (List String × Chars) :=
  readKeyParts (cs.length + 1) cs

/-- What follows a comment, if one stands at the start of a text. -/
def skipComment (cs : Chars) : Option Chars :=
  match cs with
  | '#' :: rest =>
    let comment := rest.takeWhile (· != '\n')
    if comment.all isLineChar then some (rest.drop comment.length) else none
  | _ => some cs

end MixedScript.Toml
