import MixedScript.Settings.Options
import MixedScript.Text.Chars

/-!
Code and math as they are written: with delimiters that nothing inside them matches.
-/

namespace MixedScript.Markdown

/-- Backticks one longer than any run of them in a text. -/
def ticksFor (cs : Chars) : Chars :=
  List.replicate (Chars.longestRun '\x60' cs + 1) '\x60'

/-- Whether code needs a space on either side, so that its edges are not read as something else. -/
def needsPadding (cs : Chars) : Bool :=
  cs.head? == some '\x60' || cs.getLast? == some '\x60' ||
    (cs.head? == some ' ' && cs.getLast? == some ' ' && !(Chars.strip cs).isEmpty)

/-- Code in a line. -/
def codeSpan (cs : Chars) : Chars :=
  let ticks := ticksFor cs
  ticks ++ (if needsPadding cs then ' ' :: cs ++ [' '] else cs) ++ ticks

/-- A text that ends in a line feed, unless it is empty. -/
def endLine (cs : Chars) : Chars :=
  if cs.isEmpty || cs.getLast? == some '\n' then cs else cs ++ ['\n']

/-- A fence for a text: longer than any run of its character inside. -/
def fenceFor (mark : FenceMark) (least : Nat) (cs : Chars) : Chars :=
  List.replicate (max least (Chars.longestRun mark.char cs + 1)) mark.char

/-- A block of code between fences, with its info string. -/
def fencedCode (mark : FenceMark) (least : Nat) (info content : Chars) : Chars :=
  let fence := fenceFor mark least content
  fence ++ info ++ '\n' :: endLine content ++ fence

/-- A block of code by indentation. -/
def indentedCode (content : Chars) : Chars :=
  let lines := Chars.lines (Chars.dropEndWhile (· == '\n') content)
  Chars.join ['\n'] (lines.map (fun line => if line.isEmpty then [] else ' ' :: ' ' :: ' ' :: ' ' :: line))

/-- Math in a line: between dollar signs, or with backticks inside them where the source could not be read
back otherwise. -/
def mathSpan (cs : Chars) : Chars :=
  if cs.isEmpty || (cs.head?.map Text.isBlank).getD false || cs.contains '\n' || cs.contains '$' then
    let ticks := ticksFor cs
    '$' :: ticks ++ cs ++ ticks ++ ['$']
  else '$' :: cs ++ ['$']

/-- Display math that stands in a line. -/
def displayMathSpan (cs : Chars) : Chars :=
  '$' :: '$' :: cs ++ ['$', '$']

def displayMathBlock (cs : Chars) : Chars :=
  '$' :: '$' :: '\n' :: Chars.dropEndWhile (· == '\n') cs ++ ['\n', '$', '$']

end MixedScript.Markdown
