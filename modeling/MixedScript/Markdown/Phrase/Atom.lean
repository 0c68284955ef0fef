import MixedScript.Markdown.Phrase.Emphasis
import MixedScript.Markdown.Target
import MixedScript.Markdown.Tag
import MixedScript.Text.DecimalDigit

/-!
Atoms of a line: what is read as a whole wherever it stands, so that no markup inside it counts. Escapes, code,
math, links in angle brackets, HTML and line breaks are atoms. Each reader returns a token and what follows it.
-/

namespace MixedScript.Markdown

namespace Atom

/-- A character behind a backslash. -/
def escape? (cs : Chars) : Option (Token × Chars) :=
  match cs with
  | '\\' :: c :: rest => if isAsciiPunctuation c then some (textToken [c], rest) else none
  | _ => none

/-- The text before the next run of exactly `count` backticks, and what follows the run. `run` is the number of
backticks just read. -/
def codeEnd? (count : Nat) : Nat → Chars → Option (Chars × Chars)
  | run, [] => if run == count then some ([], []) else none
  | run, c :: rest =>
    if c == '\x60' then codeEnd? count (run + 1) rest
    else if run == count then some ([], c :: rest)
    else (codeEnd? count 0 rest).map (fun (t, r) => (List.replicate run '\x60' ++ c :: t, r))

/-- The content of code: line feeds are spaces, and one space goes at both ends if something other than spaces
stands between. -/
def codeContent (cs : Chars) : Chars :=
  let cs := cs.map (fun c => if c == '\n' then ' ' else c)
  if cs.all (· == ' ') then cs
  else if cs.head? == some ' ' && cs.getLast? == some ' ' then (cs.drop 1).dropLast
  else cs

/-- Code between runs of backticks; a run without a partner is text. -/
def code? (cs : Chars) : Option (Token × Chars) :=
  let run := cs.takeWhile (· == '\x60')
  let rest := cs.drop run.length
  if run.isEmpty then none
  else
    match codeEnd? run.length 0 rest with
    | some (source, after) => some (.leaf .codeSpan (codeContent source) {}, after)
    | none => some (textToken run, rest)

/-- The text before the next dollar sign that is not escaped, and what follows that sign. -/
def mathEnd? (linesAllowed : Bool) : Chars → Option (Chars × Chars)
  | [] => none
  | '$' :: rest => some ([], rest)
  | '\\' :: c :: rest =>
    if c == '\n' then none else (mathEnd? linesAllowed rest).map (fun (t, r) => ('\\' :: c :: t, r))
  | c :: rest =>
    if c == '\\' || (c == '\n' && !linesAllowed) then none
    else (mathEnd? linesAllowed rest).map (fun (t, r) => (c :: t, r))

/-- Math between double dollar signs. -/
def displayMath? (cs : Chars) : Option (Token × Chars) :=
  match cs with
  | '$' :: '$' :: rest =>
    match mathEnd? true rest with
    | some (source, '$' :: after) => some (.leaf .blockMath source {}, after)
    | _ => none
  | _ => none

/-- Math between dollar signs with so many backticks inside them, or as many fewer as it takes. -/
def tickedMath? (cs : Chars) : Nat → Option (Token × Chars)
  | 0 => none
  | n + 1 =>
    let ticks := List.replicate (n + 1) '\x60'
    match (Chars.after? ticks cs).bind (Chars.cutAt? (ticks ++ ['$'])) with
    | some (source, after) => some (.leaf .inlineMath source {}, after)
    | none => tickedMath? cs n

/-- Math between single dollar signs. No blank follows the first and no digit the second. -/
def plainMath? (cs : Chars) : Option (Token × Chars) :=
  match cs with
  | c :: _ =>
    if c == '$' || Text.isBlank c then none
    else
      match mathEnd? false cs with
      | some (source, after) =>
        if (after.head?.map Text.isDecimalDigit).getD false then none else some (.leaf .inlineMath source {}, after)
      | none => none
  | [] => none

/-- Math in a line. -/
def math? (cs : Chars) : Option (Token × Chars) :=
  match cs with
  | '$' :: rest => displayMath? cs <|> tickedMath? rest (rest.takeWhile (· == '\x60')).length <|> plainMath? rest
  | _ => none

/-- A link that shows its destination. -/
def shownLink (start text : Chars) : Token :=
  .branch .link [textToken text] { url := encodeUrl (start ++ text) }

/-- Whether a character may continue the scheme of a destination. -/
def isSchemeChar (c : Char) : Bool :=
  isLetter c || c.isDigit || c == '+' || c == '.' || c == '-'

/-- A destination with a scheme in angle brackets, of which the first has been read. -/
def shownUrl? (cs : Chars) : Option (Token × Chars) :=
  let scheme := cs.takeWhile isSchemeChar
  let body := (cs.drop scheme.length).takeWhile (fun c => ' ' < c && c != '<' && c != '>')
  let text := scheme ++ body
  if (scheme.head?.map isLetter).getD false && 2 ≤ scheme.length && scheme.length ≤ 32 && body.head? == some ':' then
    match cs.drop text.length with
    | '>' :: rest => some (shownLink [] text, rest)
    | _ => none
  else none

/-- Whether a character may stand before the at sign of a mail address. -/
def isMailChar (c : Char) : Bool :=
  c.isAlphanum || ".!#$%&'*+/=?^_\x60\x7b|\x7d~-".toList.contains c

/-- Whether a text may be a part of a domain: at most sixty-three letters, digits and inner hyphens. -/
def isDomainPart (cs : Chars) : Bool :=
  cs.all (fun c => c.isAlphanum || c == '-') && !cs.isEmpty && cs.length ≤ 63 &&
    cs.head? != some '-' && cs.getLast? != some '-'

/-- A mail address in angle brackets, of which the first has been read. -/
def shownMail? (cs : Chars) : Option (Token × Chars) :=
  let name := cs.takeWhile isMailChar
  match cs.drop name.length with
  | '@' :: rest =>
    let domain := rest.takeWhile (fun c => c.isAlphanum || c == '-' || c == '.')
    match rest.drop domain.length with
    | '>' :: after =>
      if !name.isEmpty && (Chars.splitAt '.' domain).all isDomainPart then
        some (shownLink "mailto:".toList (name ++ '@' :: domain), after)
      else none
    | _ => none
  | _ => none

/-- What an angle bracket opens: a link that shows its destination, which is text where links are off, or
HTML. -/
def angle? (linksOff : Bool) (cs : Chars) : Option (Token × Chars) :=
  match cs with
  | '<' :: rest =>
    let shown := (shownUrl? rest <|> shownMail? rest).map (fun (t, after) =>
      (if linksOff then textToken (cs.take (cs.length - after.length)) else t, after))
    shown <|> (afterMarkup? cs).map (fun after =>
      (.leaf .inlineHtml (cs.take (cs.length - after.length)) {}, after))
  | _ => none

/-- Whether links are off after a token: an opening anchor tag turns them off and a closing one on again. -/
def linksOffAfter (linksOff : Bool) : Token → Bool
  | .leaf .inlineHtml raw _ =>
    if ["<a ", "<a>", "<A ", "<A>"].any (starts raw) then true
    else if ["</a ", "</a>", "</A ", "</A>"].any (starts raw) then false
    else linksOff
  | _ => linksOff
where
  starts (raw : Chars) (start : String) : Bool := (Chars.after? start.toList raw).isSome

/-- A line break with the blanks around it. A backslash or two spaces before it make it a hard one. -/
def lineBreak? (cs : Chars) : Option (Token × Chars) :=
  match cs with
  | '\\' :: '\n' :: rest => some (.leaf .hardBreak [] {}, dropBlank rest)
  | _ =>
    let spaces := indentation cs
    match cs.drop spaces with
    | '\n' :: rest => some (.leaf (if 2 ≤ spaces then .hardBreak else .softBreak) [] {}, dropBlank rest)
    | _ => none
where
  indentation (cs : Chars) : Nat := (cs.takeWhile (· == ' ')).length

end Atom

end MixedScript.Markdown
