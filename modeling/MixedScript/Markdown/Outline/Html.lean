import MixedScript.Markdown.Outline.Line
import MixedScript.Markdown.Tag

/-!
Blocks of HTML. How a block starts decides where it ends: at the line that holds a certain mark, or before
the next empty line.
-/

namespace MixedScript.Markdown

/-- Names of tags whose content is not markup, so that their blocks end with the closing tag. -/
def verbatimTags : List String := ["pre", "script", "style", "textarea"]

/-- Names of tags that start a block wherever they stand. -/
def blockTags : List String := [
  "address", "article", "aside", "base", "basefont", "blockquote", "body", "caption", "center", "col", "colgroup",
  "dd", "details", "dialog", "dir", "div", "dl", "dt", "fieldset", "figcaption", "figure", "footer", "form",
  "frame", "frameset", "h1", "h2", "h3", "h4", "h5", "h6", "head", "header", "hr", "html", "iframe", "legend",
  "li", "link", "main", "menu", "menuitem", "meta", "nav", "noframes", "ol", "optgroup", "option", "p", "param",
  "section", "source", "summary", "table", "tbody", "td", "tfoot", "th", "thead", "title", "tr", "track", "ul"]

/-- The start of a block of HTML. -/
inductive HtmlStart where
  /-- The block ends with the line that holds a mark. -/
  | toMark (mark : Chars)
  /-- The block ends before the next empty line. -/
  | toBlankLine
  /-- A tag of any other name, which has to stand alone on its line. -/
  | loneTag (closing : Bool)
  deriving DecidableEq, Repr

/-- The start of a block that a tag makes. -/
def HtmlStart.ofTag (closing : Bool) (name : Chars) : HtmlStart :=
  let name := String.ofList (name.map Char.toLower)
  if !closing && verbatimTags.contains name then toMark ('<' :: '/' :: name.toList ++ ['>'])
  else if blockTags.contains name then toBlankLine
  else loneTag closing

/-- The start of a block of HTML at the start of a line, and what follows its marker. -/
def htmlStart? (cs : Chars) : Option (HtmlStart × Chars) :=
  match cs with
  | '<' :: '/' :: rest => (tagName? rest).map (fun (name, rest) => (.ofTag true name, rest))
  | '<' :: '!' :: '-' :: '-' :: rest => some (.toMark ['-', '-', '>'], rest)
  | '<' :: '?' :: rest => some (.toMark ['?', '>'], rest)
  | '<' :: '!' :: rest =>
    match Chars.after? "[CDATA[".toList rest with
    | some rest => some (.toMark [']', ']', '>'], rest)
    | none =>
      match rest with
      | c :: rest => if isCapital c then some (.toMark ['>'], rest) else none
      | [] => none
  | '<' :: rest => (tagName? rest).map (fun (name, rest) => (.ofTag false name, rest))
  | _ => none

/-- Whether a name in small letters is that of a verbatim or a block tag. -/
def isKnownTag (name : Chars) : Bool :=
  verbatimTags.contains (String.ofList name) || blockTags.contains (String.ofList name)

/-- Whether a block of HTML may break off the block before it, given the block and what follows its marker.
Only tags of a known name, written in small letters, may, and a blank or the end of the line has to follow the
name. -/
def interruptsBlock (cs rest : Chars) : Bool :=
  match cs with
  | '<' :: '!' :: _ | '<' :: '?' :: _ => true
  | '<' :: '/' :: tag | '<' :: tag =>
    isKnownTag (tag.take (tag.length - rest.length)) &&
      (rest.head?.map (fun c => Text.isInlineBlank c || c == '\n')).getD true
  | _ => false

/-- A text up to the end of the line that holds a mark after `skipped` characters, and the rest. -/
def cutAfterMark (mark : Chars) (skipped : Nat) (cs : Chars) : Chars × Chars :=
  match Chars.cutAt? mark (cs.drop skipped) with
  | some (_, later) =>
    let rest := afterLine later
    (cs.take (cs.length - rest.length), rest)
  | none => (cs, [])

/-- A text up to its next empty line, and the rest. -/
def cutAtBlankLine : Nat → Chars → Chars × Chars
  | 0, cs => ([], cs)
  | fuel + 1, cs =>
    if cs.isEmpty || startsBlank cs then ([], cs)
    else
      let (kept, rest) := cutAtBlankLine fuel (afterLine cs)
      (firstLineWithEnd cs ++ kept, rest)

/-- Whether what follows the name of a tag ends the tag, and then the line. -/
def endsTagLine (closing : Bool) (cs : Chars) : Bool :=
  let after? :=
    if closing then (Chars.after? ['>'] (cs.dropWhile Text.isInlineBlank))
    else tagEnd? TagPlace.isFinalAlone [.settled] cs
  (after?.map (fun after => (firstLine after).all Text.isInlineBlank)).getD false

end MixedScript.Markdown
