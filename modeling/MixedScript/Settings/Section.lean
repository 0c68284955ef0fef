import MixedScript.Value

/-!
The sections of a configuration and the fields of each, with their defaults. A field belongs to exactly one
section, so a configuration may name it with or without its section.
-/

namespace MixedScript.Settings

/-- A section of a configuration: one stage of formatting. -/
inductive Section where
  | reader | writer | spacing
  deriving DecidableEq, Repr

namespace Section

/-- The name of a section in a configuration. -/
def name : Section → String
  | reader => "parser"
  | writer => "renderer"
  | spacing => "spacing"

/-- All sections, in the order in which a configuration is checked. -/
def all : List Section := [reader, writer, spacing]

def ofName? (name : String) : Option Section :=
  all.find? (fun s => s.name == name)

/-- The fields of a section in order, each with its default. -/
def fields : Section → List (String × Value)
  | reader => [
      ("parse_tables", .bool true), ("parse_footnotes", .bool true), ("parse_math", .bool true),
      ("parse_task_lists", .bool true), ("parse_strikethrough", .bool true),
      ("parse_frontmatter", .bool true)]
  | writer => [
      ("escape_special", .bool true), ("emphasis_symbol", .str "*"), ("bullet_symbols", .str "-"),
      ("list_indent_width", .int 2), ("code_fence_char", .str "\x60"), ("code_fence_min", .int 3),
      ("metadata_frontmatter", .bool true)]
  | spacing => [("normalize_text", .bool true), ("normalize_math", .bool true)]

/-- The names of the fields of a section, in order. -/
def fieldNames (s : Section) : List String :=
  s.fields.map Prod.fst

def ofField? (field : String) : Option Section :=
  all.find? (fun s => s.fieldNames.contains field)

end Section

/-- A kind of options: those of one section, or of all of them together. -/
inductive OptionsKind where
  /-- The options of one section. -/
  | ofSection (s : Section)
  /-- The options of all sections. -/
  | format
  deriving DecidableEq, Repr

/-- The name of a kind of options as messages give it. -/
def OptionsKind.name : OptionsKind → String
  | ofSection .reader => "MarkdownParserOptions"
  | ofSection .writer => "MarkdownRendererOptions"
  | ofSection .spacing => "SpacingOptions"
  | format => "FormatOptions"

def OptionsKind.fieldNames : OptionsKind → List String
  | ofSection s => s.fieldNames
  | format => Section.all.map Section.name

end MixedScript.Settings
