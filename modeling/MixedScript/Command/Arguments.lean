import MixedScript.Journal
import MixedScript.Settings.Section
import MixedScript.Text.Integer

/-!
The arguments of the command line. An argument is a path, an option or the value of an option. Long options may
be cut short as long as one remains, short ones may be run together, and after two hyphens everything is a
path. All paths stand in one row.
-/

namespace MixedScript.Command

open Settings (Section)

/-- What is done with formatted texts. -/
inductive Mode where
  /-- They are printed. -/
  | print
  /-- They are written back. -/
  | write
  /-- It is told whether they have changed. -/
  | check
  /-- Their differences are printed. -/
  | diff
  deriving DecidableEq, Repr

/-- What the user asks for. -/
structure Arguments where
  /-- The inputs; none for the standard input. -/
  paths : List String := []
  /-- What is done with formatted texts. -/
  mode : Mode := .print
  /-- The configuration file. -/
  config : Option String := none
  /-- Whether configuration files are left alone. -/
  noConfig : Bool := false
  /-- Values for fields of options, the last one first. -/
  fields : List ((Section × String) × Value) := []
  /-- The least severity of what is told. -/
  severity : Severity := .warning
  /-- The file that gets a copy of what is told. -/
  logFile : Option String := none
  /-- Whether everything is told, and in full. -/
  trace : Bool := false
  deriving DecidableEq, Repr

/-- The end of a run that does not start. -/
inductive Farewell where
  /-- The user asks for help. -/
  | help
  /-- The user asks for the version. -/
  | version
  /-- The arguments make no sense. -/
  | refused
  deriving DecidableEq, Repr

/-- The exit code of a run that does not start. -/
def Farewell.exitCode : Farewell → Nat
  | help | version => 0
  | refused => 2

/-! ### Options -/

/-- What an option is about. -/
inductive Topic where
  | help | version | config | noConfig | severity | logFile | trace
  | mode (m : Mode)
  | field (s : Section) (name : String)
  deriving DecidableEq, Repr

/-- How the value of an option is read. -/
inductive ValueForm where
  /-- Any text. -/
  | text
  | integer
  /-- One of several texts. -/
  | oneOf (allowed : List String)
  deriving DecidableEq, Repr

structure OptionForm where
  names : List String
  /-- What it is about. -/
  topic : Topic
  /-- How its value is read; nothing if it has none. -/
  takes : Option ValueForm := none
  deriving DecidableEq, Repr

/-- The sections in the order in which their values are listed. -/
def sections : List Section := [.spacing, .reader, .writer]

/-- A name with hyphens for its underscores. -/
def hyphenated (name : String) : String :=
  String.ofList (Chars.replaceChar '_' ['-'] name.toList)

/-- The name of the option that turns a field off. -/
def offName (field : String) : String :=
  if field == "normalize_text" then "--no-text-normalization"
  else if field == "normalize_math" then "--no-math-normalization"
  else "--no-" ++ hyphenated field

/-- The option of a field with a default. What is on by default can be turned off. -/
def fieldForm (s : Section) (field : String) (default : Value) : OptionForm :=
  match default with
  | .bool _ => ⟨[offName field], .field s field, none⟩
  | .int _ => ⟨["--" ++ hyphenated field], .field s field, some .integer⟩
  | _ =>
    let form :=
      if field == "emphasis_symbol" then ValueForm.oneOf ["*", "_"]
      else if field == "code_fence_char" then .oneOf ["\x60", "~"]
      else .text
    ⟨["--" ++ hyphenated field], .field s field, some form⟩

/-- The severities that can be asked for. -/
def severities : List Severity := [.debug, .info, .warning, .error]

/-- All options. -/
def optionForms : List OptionForm := [
  ⟨["-h", "--help"], .help, none⟩, ⟨["--write", "-w"], .mode .write, none⟩, ⟨["--check"], .mode .check, none⟩,
  ⟨["--diff"], .mode .diff, none⟩, ⟨["--config"], .config, some .text⟩, ⟨["--no-config"], .noConfig, none⟩,
  ⟨["--log-level"], .severity, some (.oneOf (severities.map Severity.name))⟩,
  ⟨["--log-file"], .logFile, some .text⟩, ⟨["--trace"], .trace, none⟩, ⟨["--version", "-V"], .version, none⟩] ++
  sections.flatMap (fun s => s.fields.map (fun (field, default) => fieldForm s field default))

def formOf? (name : String) : Option OptionForm :=
  optionForms.find? (fun f => f.names.contains name)

/-! ### Words -/

/-- A text that is attached to an option, behind an equals sign or right behind a short name. -/
structure Attachment where
  /-- Whether an equals sign stands before it. -/
  behindSign : Bool
  text : Chars
  deriving DecidableEq, Repr

/-- An option that an argument may stand for. -/
structure Candidate where
  form : OptionForm
  /-- Whether its name is a short one. -/
  short : Bool := false
  attached : Option Attachment := none
  deriving DecidableEq, Repr

/-- What an argument is at first sight. -/
inductive Word where
  /-- A path, or the value of an option. -/
  | plain (s : String)
  /-- The two hyphens after which everything is a path. -/
  | divider
  /-- An option, or several that it may be. -/
  | option (candidates : List Candidate)
  /-- An option that there is none of. -/
  | unknown
  deriving DecidableEq, Repr

/-- The name before the first equals sign, and the text after it. -/
def splitAttached (cs : Chars) : Chars × Option Attachment :=
  match Chars.cutAt? ['='] cs with
  | some (name, text) => (name, some ⟨true, text⟩)
  | none => (cs, none)

/-- The options whose names begin with what an argument with two hyphens gives. -/
def longCandidates (cs : Chars) : List Candidate :=
  let (start, attached) := splitAttached cs
  optionForms.flatMap (fun form =>
    (form.names.filter (fun name => (Chars.after? start name.toList).isSome)).map (fun _ => ⟨form, false, attached⟩))

/-- The option of one letter at the start of an argument with one hyphen. -/
def shortCandidates (cs : Chars) : List Candidate :=
  ((formOf? (String.ofList (cs.take 2))).map (fun form => ⟨form, true, some ⟨false, cs.drop 2⟩⟩)).toList

/-- Whether an argument is a negative number. -/
def isNegativeNumber (cs : Chars) : Bool :=
  match cs with
  | '-' :: rest =>
    let whole := rest.takeWhile Text.isDecimalDigit
    match rest.drop whole.length with
    | [] => !whole.isEmpty
    | '.' :: places => !places.isEmpty && places.all Text.isDecimalDigit
    | _ => false
  | _ => false

/-- Whether an option's name has one hyphen. -/
def isShort (name : Chars) : Bool :=
  (name.drop 1).head? != some '-'

/-- What an argument is at first sight. -/
def classify (s : String) : Word :=
  let cs := s.toList
  if cs.head? != some '-' then .plain s
  else
    match formOf? s with
    | some form => .option [⟨form, isShort cs, none⟩]
    | none =>
      if cs.length == 1 then .plain s
      else
        let (name, attached) := splitAttached cs
        match (if attached.isSome then formOf? (String.ofList name) else none) with
        | some form => .option [⟨form, isShort name, attached⟩]
        | none =>
          match (if isShort cs then shortCandidates cs else longCandidates cs) with
          | [] => if isNegativeNumber cs || cs.contains ' ' then .plain s else .unknown
          | candidates => .option candidates

/-- What all arguments are at first sight. -/
def classifyAll : List String → List Word
  | [] => []
  | s :: rest => if s == "--" then .divider :: rest.map .plain else classify s :: classifyAll rest

/-! ### Reading -/

/-- Where the row of paths is with respect to an argument. -/
inductive Row where
  | ahead | here | behind
  deriving DecidableEq, Repr

/-- What has been read of the arguments. -/
structure Progress where
  /-- What the user asks for so far. -/
  arguments : Arguments := {}
  /-- The mode that the user has asked for. -/
  mode : Option Mode := none
  /-- Where the row of paths is. -/
  row : Row := .ahead
  /-- Whether there was anything that belongs nowhere. -/
  surplus : Bool := false

namespace Progress

/-- One more path. -/
def addPath (p : Progress) (s : String) : Progress :=
  if p.row = .behind then { p with surplus := true }
  else { p with row := .here, arguments := { p.arguments with paths := p.arguments.paths ++ [s] } }

/-- The two hyphens, which may stand in the row of paths. -/
def addDivider (p : Progress) : Progress :=
  if p.row = .behind then { p with surplus := true } else { p with row := .here }

/-- An option ends the row of paths. -/
def endRow (p : Progress) : Progress :=
  if p.row = .here then { p with row := .behind } else p

/-- Something that belongs nowhere. -/
def addSurplus (p : Progress) : Progress :=
  { p.endRow with surplus := true }

/-- What an option with a value says. -/
def apply (p : Progress) (topic : Topic) (value : Value) : Except Farewell Progress :=
  let a := p.arguments
  let text := match value with
    | .str s => some s
    | _ => none
  match topic with
  | .help => .error .help
  | .version => .error .version
  | .config => .ok { p with arguments := { a with config := text } }
  | .noConfig => .ok { p with arguments := { a with noConfig := true } }
  | .severity =>
    .ok { p with arguments :=
      { a with severity := (severities.find? (fun s => some s.name == text)).getD a.severity } }
  | .logFile => .ok { p with arguments := { a with logFile := text } }
  | .trace => .ok { p with arguments := { a with trace := true } }
  | .field s name => .ok { p with arguments := { a with fields := ((s, name), value) :: a.fields } }
  | .mode m =>
    if p.mode.all (· == m) then .ok { p with mode := some m, arguments := { a with mode := m } }
    else .error .refused

end Progress

/-- The value that a text stands for. -/
def ValueForm.read (form : ValueForm) (s : String) : Except Farewell Value :=
  match form with
  | .text => .ok (.str s)
  | .integer =>
    match Text.integer? s.toList with
    | some i => .ok (.int i)
    | none => .error .refused
  | .oneOf allowed => if allowed.contains s then .ok (.str s) else .error .refused

/-- The options without value whose letters are run together, of which the first is given, and whether letters
are left that belong to none. -/
def cluster (form : OptionForm) : Chars → Except Farewell (List OptionForm × Bool)
  | [] => .ok ([form], false)
  | c :: rest =>
    if c == '-' || form.takes.isSome then .error .refused
    else
      match formOf? (String.ofList ['-', c]) with
      | none => .ok ([form], true)
      | some next =>
        if rest.head? == some '=' then .error .refused
        else (cluster next rest).map (fun (forms, left) => (form :: forms, left))

/-- What an option says that takes nothing from the next argument. -/
def Progress.applyAlone (p : Progress) (c : Candidate) : Except Farewell Progress :=
  match c.form.takes, c.attached with
  | some form, some a => do p.apply c.form.topic (← form.read (String.ofList a.text))
  | some _, none => .error .refused
  | none, none => p.apply c.form.topic (.bool false)
  | none, some a =>
    if !c.short || a.behindSign || a.text.isEmpty then .error .refused
    else do
      let (forms, left) ← cluster c.form a.text
      let p ← forms.foldlM (fun (p : Progress) form => p.apply form.topic (.bool false)) p
      return if left then { p with surplus := true } else p

/-- Reads arguments after what has been read. -/
def readWords : List Word → Progress → Except Farewell Progress
  | [], p => .ok p
  | .plain s :: rest, p => readWords rest (p.addPath s)
  | .divider :: rest, p => readWords rest p.addDivider
  | .unknown :: rest, p => readWords rest p.addSurplus
  | .option [c] :: .plain s :: rest, p =>
    match c.form.takes, c.attached with
    | some form, none => do
      let p ← p.endRow.apply c.form.topic (← form.read s)
      readWords rest p
    | _, _ => do
      let p ← p.endRow.applyAlone c
      readWords rest (p.addPath s)
  | .option [c] :: rest, p => do
    let p ← p.endRow.applyAlone c
    readWords rest p
  | .option _ :: _, _ => .error .refused

/-- What the user asks for with arguments. -/
def Arguments.parse (arguments : List String) : Except Farewell Arguments := do
  let p ← readWords (classifyAll arguments) {}
  if p.surplus then .error .refused else .ok p.arguments

/-- The values for fields of options as a configuration. -/
def Arguments.overrides (a : Arguments) : Mapping :=
  sections.filterMap (fun s =>
    let table : Mapping := s.fieldNames.filterMap (fun field =>
      (a.fields.lookup (s, field)).map (fun value => (.str field, value)))
    if table.isEmpty then none else some (.str s.name, .map table))

end MixedScript.Command
