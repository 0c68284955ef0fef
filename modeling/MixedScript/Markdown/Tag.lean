import MixedScript.Text.Chars

/-!
Tags of embedded HTML: names, attributes, and whole tags, comments, instructions and declarations in a
line. A value without quotes may hold blanks other than spaces, so the attributes of a tag can often be read in
several ways; they are all followed at once.
-/

namespace MixedScript.Markdown

/-- Whether a character is a letter of ASCII. -/
def isLetter (c : Char) : Bool :=
  ('a' ≤ c && c ≤ 'z') || ('A' ≤ c && c ≤ 'Z')

/-- Whether a character may continue the name of a tag. -/
def isTagChar (c : Char) : Bool :=
  isLetter c || c.isDigit || c == '-'

/-- The name of a tag at the start of a text. -/
def tagName? (cs : Chars) : Option (Chars × Chars) :=
  match cs with
  | c :: _ => if isLetter c then some (cs.takeWhile isTagChar, cs.dropWhile isTagChar) else none
  | [] => none

/-- A text without the blank characters at its start. -/
def dropBlank (cs : Chars) : Chars :=
  cs.dropWhile Text.isBlank

/-- Whether a character may start the name of an attribute. -/
def isAttributeStart (c : Char) : Bool :=
  isLetter c || c == '_' || c == ':'

/-- Whether a character may continue the name of an attribute. -/
def isAttributeChar (c : Char) : Bool :=
  isAttributeStart c || c.isDigit || c == '.' || c == '-'

/-- Whether a character may stand in a value without quotes. -/
def isBareValueChar (c : Char) : Bool :=
  !(c == ' ' || ['!', '\x22', '\x27', '=', '<', '>', '\x60'].contains c)

/-- A place in an opening tag behind its name. -/
inductive TagPlace where
  /-- Right behind the name of the tag or a value in quotes. -/
  | settled
  /-- In blanks, which are spaces and tabs only if `inLine`, and of which the first follows the name of an
  attribute if `named`. -/
  | gap (inLine named : Bool)
  /-- In the name of an attribute. -/
  | name
  /-- Between an equals sign and the value. -/
  | sign
  /-- In a value without quotes. -/
  | bare
  /-- In a value in quotes. -/
  | quoted (mark : Char)
  /-- Behind the slash at the end of the tag. -/
  | slash
  deriving DecidableEq, Repr

namespace TagPlace

/-- The place after a character that ends what has been read so far. -/
def afterPart (named : Bool) (c : Char) : List TagPlace :=
  if Text.isBlank c then [gap (Text.isInlineBlank c) named]
  else if c == '/' then [slash]
  else []

/-- The places to which a character may lead. -/
def next (c : Char) : TagPlace → List TagPlace
  | settled => afterPart false c
  | gap inLine named =>
    if Text.isBlank c then [gap (inLine && Text.isInlineBlank c) named]
    else if isAttributeStart c then [name]
    else if c == '=' && named then [sign]
    else if c == '/' then [slash]
    else []
  | name =>
    if isAttributeChar c then [name]
    else if c == '=' then [sign]
    else afterPart true c
  | sign =>
    (if Text.isBlank c then [sign] else []) ++
      if c == '\x22' || c == '\x27' then [quoted c]
      else if isBareValueChar c then [bare]
      else []
  | bare => (if isBareValueChar c then [bare] else []) ++ afterPart false c
  | quoted mark => if c == mark then [settled] else [quoted mark]
  | slash => []

/-- Whether the tag may end here. -/
def isFinal : TagPlace → Bool
  | sign | quoted _ => false
  | _ => true

/-- Whether a tag that stands alone on its line may end here: after no slash of its own, and with nothing but
spaces and tabs behind the last attribute. -/
def isFinalAlone : TagPlace → Bool
  | slash => false
  | gap inLine _ => inLine
  | place => place.isFinal

end TagPlace

/-- What follows the angle bracket that ends a tag at one of the final places, from several places on. -/
def tagEnd? (isFinal : TagPlace → Bool) (places : List TagPlace) : Chars → Option Chars
  | [] => none
  | c :: rest =>
    if places.isEmpty then none
    else if c == '>' && places.any isFinal then some rest
    else tagEnd? isFinal (places.flatMap (TagPlace.next c)).eraseDups rest

/-- What follows a mark that comes after one character at least. -/
def afterMark? (mark : Chars) (cs : Chars) : Option Chars :=
  match cs with
  | [] => none
  | _ :: rest => (Chars.cutAt? mark rest).map Prod.snd

/-- What follows a comment whose opening mark has been read. -/
def afterComment? (cs : Chars) : Option Chars :=
  match cs with
  | '>' :: rest | '-' :: '>' :: rest => some rest
  | cs => (Chars.cutAt? ['-', '-', '>'] cs).map Prod.snd

/-- Whether a character is a capital letter of ASCII. -/
def isCapital (c : Char) : Bool :=
  'A' ≤ c && c ≤ 'Z'

/-- What follows a declaration whose opening mark has been read: a name in capital letters, a blank, and
anything to the angle bracket that ends it. -/
def afterDeclaration? (cs : Chars) : Option Chars :=
  match cs.dropWhile isCapital with
  | c :: rest =>
    if (cs.head?.map isCapital).getD false && Text.isBlank c then (Chars.cutAt? ['>'] rest).map Prod.snd else none
  | [] => none

/-- What follows the tag, comment, instruction or declaration that an angle bracket at the start of a text
opens. -/
def afterMarkup? (cs : Chars) : Option Chars :=
  match cs with
  | '<' :: '/' :: rest =>
    match tagName? rest with
    | some (_, rest) =>
      match dropBlank rest with
      | '>' :: rest => some rest
      | _ => none
    | none => none
  | '<' :: '!' :: '-' :: '-' :: rest => afterComment? rest
  | '<' :: '?' :: rest => (Chars.cutAt? ['?', '>'] rest).map Prod.snd
  | '<' :: '!' :: rest =>
    match Chars.after? "[CDATA".toList rest with
    | some rest => afterMark? [']', ']', '>'] rest
    | none => afterDeclaration? rest
  | '<' :: rest =>
    match tagName? rest with
    | some (_, rest) => tagEnd? TagPlace.isFinal [.settled] rest
    | none => none
  | _ => none

end MixedScript.Markdown
