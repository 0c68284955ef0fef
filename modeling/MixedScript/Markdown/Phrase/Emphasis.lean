import MixedScript.Markdown.Token

/-!
Emphasis. A line is read into parts: finished tokens, runs of delimiters, and opening brackets that wait for
their partners. Runs are paired afterwards, each closing run with the nearest run before it that fits.
-/

namespace MixedScript.Markdown

structure DelimiterRun where
  /-- The character of the run. -/
  mark : Char
  /-- The number of delimiters that are left. -/
  count : Nat
  /-- The number of delimiters as written. -/
  written : Nat
  /-- Whether the run may open emphasis. -/
  opens : Bool
  /-- Whether the run may close emphasis. -/
  closes : Bool

inductive LinePart where
  /-- A finished token. -/
  | token (t : Token)
  | run (r : DelimiterRun)
  /-- The opening bracket of a link or an image, if it still can be one, and what follows it. -/
  | bracket (image active : Bool) (source : Chars)

def textToken (cs : Chars) : Token :=
  .leaf .text cs {}

namespace LinePart

/-- A part as a token; what has found no partner is text. -/
def toToken : LinePart → Token
  | token t => t
  | run r => textToken (List.replicate r.count r.mark)
  | bracket image _ _ => textToken (if image then ['!', '['] else ['['])

/-- Whether two runs may be partners. If either could both open and close, their lengths may not add up to a
multiple of three unless both are one. -/
def fits (opener closer : DelimiterRun) : Bool :=
  opener.mark == closer.mark && opener.opens &&
    !((closer.opens || opener.closes) && closer.written % 3 != 0 && (opener.written + closer.written) % 3 == 0)

/-- The nearest run that a closing run may be paired with, among parts of which the latest come first; with
the parts after and before it. -/
def findOpener? (closer : DelimiterRun) : List LinePart → Option (List LinePart × DelimiterRun × List LinePart)
  | [] => none
  | .run r :: below =>
    if fits r closer then some ([], r, below)
    else (findOpener? closer below).map (fun (inner, o, rest) => (.run r :: inner, o, rest))
  | p :: below => (findOpener? closer below).map (fun (inner, o, rest) => (p :: inner, o, rest))

/-- A run with fewer delimiters in front of other parts, if any are left. -/
def consRun (r : DelimiterRun) (used : Nat) (ps : List LinePart) : List LinePart :=
  if used < r.count then .run { r with count := r.count - used } :: ps else ps

/-- Pairs runs from left to right: the first list holds what has been read, the latest first. -/
def pair : Nat → List LinePart → List LinePart → List LinePart
  | 0, done, rest => rest.reverse ++ done
  | _, done, [] => done
  | fuel + 1, done, .run r :: rest =>
    match if r.closes then findOpener? r done else none with
    | some (inner, opener, below) =>
      let used := if 2 ≤ opener.count && 2 ≤ r.count then 2 else 1
      let token : Token :=
        .branch (if used == 2 then .strong else .emphasis) (inner.reverse.map toToken) {}
      pair fuel (.token token :: consRun opener used below) (consRun r used rest)
    | none => pair fuel (.run r :: done) rest
  | fuel + 1, done, p :: rest => pair fuel (p :: done) rest

/-- Tokens in which runs of text next to each other are one. -/
def joinTexts : List Token → List Token
  | [] => []
  | t :: rest =>
    match t, joinTexts rest with
    | .leaf .text a _, .leaf .text b _ :: later => textToken (a ++ b) :: later
    | t, rest => t :: rest

/-- The number of steps that a part may take. -/
def weight : LinePart → Nat
  | run r => r.count + 1
  | _ => 1

/-- The tokens of parts with their runs paired. -/
def tokens (ps : List LinePart) : List Token :=
  joinTexts ((pair (ps.foldr (fun p n => weight p + n) 1) [] ps).reverse.map toToken)

end LinePart

end MixedScript.Markdown
