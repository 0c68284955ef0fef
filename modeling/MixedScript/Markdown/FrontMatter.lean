import MixedScript.Journal
import MixedScript.Settings.Options
import MixedScript.Yaml.Loader

/-!
Front matter: a block at the very start of a source, between two lines of three hyphens. It is split off with
both lines; its body holds the data of the document if it is a mapping, and a body that holds other data shows
that the lines are thematic breaks.
-/

namespace MixedScript.Markdown

/-- What follows the end of a line, if nothing but spaces and tabs stands before it. At the end of the text a
line may lack its end. -/
def afterFenceLine? (mayEnd : Bool) (cs : Chars) : Option Chars :=
  match cs with
  | '-' :: '-' :: '-' :: rest =>
    match rest.dropWhile Text.isInlineBlank with
    | '\n' :: rest | '\r' :: '\n' :: rest => some rest
    | [] => if mayEnd then some [] else none
    | _ => none
  | _ => none

/-- The lines before the next line of three hyphens, if there are any, and what follows that line. -/
def frontMatterBody? : Nat → Chars → Option (Chars × Chars)
  | 0, _ => none
  | fuel + 1, cs =>
    match cs.dropWhile (· != '\n') with
    | [] => none
    | _ :: later =>
      let line := cs.take (cs.length - later.length)
      match afterFenceLine? true later with
      | some rest => some (line, rest)
      | none => (frontMatterBody? fuel later).map (fun (body, rest) => (line ++ body, rest))

/-- A source with its front matter split off. -/
structure FrontMatter where
  /-- The block with both of its lines. -/
  raw : Chars
  /-- What stands between the lines. -/
  body : Chars
  /-- What follows the block. -/
  rest : Chars
  deriving DecidableEq, Repr

/-- The front matter at the start of a source. A block without a line between its two is one only if no longer
block can be found. -/
def FrontMatter.split? (cs : Chars) : Option FrontMatter := do
  let start ← afterFenceLine? false cs
  let (body, rest) ←
    match frontMatterBody? start.length start with
    | some found => some found
    | none => (afterFenceLine? true start).map (fun rest => ([], rest))
  some ⟨cs.take (cs.length - rest.length), body, rest⟩

/-- What has been found at the start of a source: the metadata of the document, and the text that is left. -/
structure Preamble where
  metadata : Mapping
  /-- The text that is left. -/
  rest : Chars
  /-- What is to be told about it. -/
  journal : Journal := []

/-- The metadata of a block, with its data if it has any. -/
def FrontMatter.metadata (f : FrontMatter) (data : Option Mapping) : Mapping :=
  (.str "frontmatter", .str (String.ofList f.raw)) ::
    (data.map (fun m => (Scalar.str "frontmatter_data", Value.map m))).toList

/-- The preamble of a source. A block that is no document is kept as it is. -/
def readPreamble (options : ReaderOptions) (cs : Chars) : Except Mishap Preamble :=
  match if options.frontMatter then FrontMatter.split? cs else none with
  | none => .ok ⟨[], cs, []⟩
  | some f =>
    match Yaml.load f.body with
    | .ok (.map data) => .ok ⟨f.metadata (some data), f.rest, []⟩
    | .ok .null => .ok ⟨f.metadata none, f.rest, []⟩
    | .ok _ =>
      .ok ⟨[], cs, [.debug .reader "Leading '---' block is not a YAML mapping; parsing it as markdown"]⟩
    | .error .malformed =>
      .ok ⟨f.metadata none, f.rest,
        [⟨.warning, .reader, "Frontmatter is not valid YAML, keeping it verbatim"⟩]⟩
    | .error (.value m) => .error m

end MixedScript.Markdown
