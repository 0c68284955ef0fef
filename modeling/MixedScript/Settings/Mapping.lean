import MixedScript.Settings.Draft

/-!
Options from a configuration mapping. Fields stand at the top level or in the table of their section; the
last value in order of the mapping counts. Either every key is known, every value is of its field's type
and every check passes, or the mapping is rejected.
-/

namespace MixedScript.Settings

/-- Why a mapping is rejected. -/
inductive Rejection where
  /-- A key that is neither a section nor a field. -/
  | unknown (key : Scalar)
  /-- A key in the table of a section that is none of its fields. -/
  | unknownIn (s : Section) (key : Scalar)
  | notTable (s : Section) (value : Value)
  | wrongType (s : Section) (field : String) (expected : String) (value : Value)
  /-- Values that a section does not allow. -/
  | invalid (s : Section) (reason : String)
  deriving DecidableEq, Repr

/-- The text of a key in a message. An integer with too many digits has none. -/
def keyText : Scalar → Except Mishap String
  | .str s => .ok s
  | .date iso => .ok (iso.map (fun c => if c == 'T' then ' ' else c))
  | s => if s.hasText then .ok (String.ofList s.quoted) else .error (Text.tooManyDigits none)

/-- A rejection as the user is told of it. One whose message has no text is a mishap. -/
def Rejection.toProblem : Rejection → Problem
  | unknown key =>
    match keyText key with
    | .error m => .outside m
    | .ok text =>
      .own (.invalid ("Unknown option '" ++ text ++ "'") (match key with
        | .str s => some s
        | _ => none))
  | unknownIn s key =>
    match keyText key with
    | .error m => .outside m
    | .ok text =>
      let path := s.name ++ "." ++ text
      .own (.invalid ("Unknown option '" ++ path ++ "'") (some path))
  | notTable s value =>
    .own (.invalid ("Configuration section '" ++ s.name ++ "' must be a table, got " ++ value.typeName)
      (some s.name))
  | wrongType s field expected value =>
    .own (.invalid
      ("Option '" ++ s.name ++ "." ++ field ++ "' must be " ++ expected ++ ", got " ++ value.typeName) (some field))
  | invalid s reason => .own (.invalid ("Invalid " ++ s.name ++ " options: " ++ reason) (some s.name))

/-- One value for one field of a section. -/
structure Assignment where
  /-- The section of the field. -/
  owner : Section
  /-- The name of the field. -/
  field : String
  value : Value
  deriving DecidableEq, Repr

def tableAssignments (s : Section) : Mapping → Except Rejection (List Assignment)
  | [] => .ok []
  | (key, value) :: rest =>
    match key with
    | .str field =>
      if s.fieldNames.contains field then do
        let later ← tableAssignments s rest
        return ⟨s, field, value⟩ :: later
      else .error (.unknownIn s key)
    | _ => .error (.unknownIn s key)

/-- The assignments that one entry of a configuration makes. -/
def entryAssignments (key : Scalar) (value : Value) : Except Rejection (List Assignment) :=
  match key with
  | .str name =>
    match Section.ofName? name with
    | some s =>
      match value with
      | .map table => tableAssignments s table
      | _ => .error (.notTable s value)
    | none =>
      match Section.ofField? name with
      | some s => .ok [⟨s, name, value⟩]
      | none => .error (.unknown key)
  | _ => .error (.unknown key)

/-- The assignments of a configuration, in order. -/
def assignments : Mapping → Except Rejection (List Assignment)
  | [] => .ok []
  | (key, value) :: rest => do
    let own ← entryAssignments key value
    let later ← assignments rest
    return own ++ later

/-- What a field of a section has to be, in words, unless a value is that. -/
def typeMismatch? (default value : Value) : Option String :=
  match default, value with
  | .bool _, .bool _ | .int _, .int _ | .str _, .str _ => none
  | .bool _, _ => some "a boolean"
  | .int _, _ => some "an integer"
  | .str _, _ => some "a string"
  | _, _ => none

/-- The final values of the fields of a section, in the order in which the fields were first named. -/
def finalValues (s : Section) (all : List Assignment) : List (String × Value) :=
  (all.filter (fun a => a.owner == s)).foldl (fun values a =>
    if values.any (fun entry => entry.1 == a.field) then
      values.map (fun entry => if entry.1 == a.field then (a.field, a.value) else entry)
    else values ++ [(a.field, a.value)]) []

def checkTypes (s : Section) : List (String × Value) → Except Rejection Unit
  | [] => .ok ()
  | (field, value) :: rest =>
    match typeMismatch? ((Draft.default s).get field) value with
    | some expected => .error (.wrongType s field expected value)
    | none => checkTypes s rest

/-- The draft of a section under all assignments. -/
def draftOf (s : Section) (all : List Assignment) : Except Rejection Draft := do
  let values := finalValues s all
  checkTypes s values
  match Draft.ofFields s values with
  | .ok d => return d
  | .error (.badValue reason) => throw (.invalid s reason)
  | .error _ => throw (.invalid s "")

/-- Drafts of all sections. -/
structure Drafts where
  /-- The draft for reading. -/
  reader : Draft
  /-- The draft for writing. -/
  writer : Draft
  spacing : Draft
  deriving DecidableEq, Repr

/-- The drafts of a configuration. -/
def Drafts.ofMapping (config : Mapping) : Except Rejection Drafts := do
  let all ← assignments config
  let reader ← draftOf .reader all
  let writer ← draftOf .writer all
  let spacing ← draftOf .spacing all
  return ⟨reader, writer, spacing⟩

def Drafts.toOptions (d : Drafts) : FormatOptions :=
  ⟨d.reader.toReader, d.writer.toWriter, d.spacing.toSpacing⟩

/-- The options of a configuration. -/
def optionsOf (config : Mapping) : Except Problem FormatOptions := do
  return (← (Drafts.ofMapping config).mapError Rejection.toProblem).toOptions

end MixedScript.Settings
