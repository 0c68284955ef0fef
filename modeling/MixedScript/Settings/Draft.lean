import MixedScript.Error
import MixedScript.Settings.Options
import MixedScript.Settings.Section

/-!
Drafts of options: a value for every field of a section, not yet known to be of the field's type. Writing
options are checked when a draft is made; a value that the check cannot even look at is ill typed.
-/

namespace MixedScript.Settings

/-- A value for every field of a section. -/
structure Draft where
  /-- The section that the fields belong to. -/
  owner : Section
  /-- The fields in order, with their values. -/
  values : List (String × Value)
  deriving DecidableEq, Repr

namespace Draft

/-- The draft that holds the defaults of a section. -/
def default (s : Section) : Draft := ⟨s, s.fields⟩

def get (d : Draft) (field : String) : Value :=
  ((d.values.find? (fun entry => entry.1 == field)).map Prod.snd).getD .null

/-- The draft with one field changed. -/
def set (d : Draft) (field : String) (value : Value) : Draft :=
  ⟨d.owner, d.values.map (fun entry => if entry.1 == field then (field, value) else entry)⟩

/-- Whether a number is less than an integer; nothing for a value that is no number. -/
def isBelow? (bound : Int) : Value → Option Bool
  | .int i => some (i < bound)
  | .bool b => some ((if b then 1 else 0) < bound)
  | .float (.finite negative mantissa exponent) =>
    some (negative && mantissa != 0 ||
      decide ((Decimal.Binary64.scaleByTwo mantissa 1 exponent).1 <
        bound.toNat * (Decimal.Binary64.scaleByTwo mantissa 1 exponent).2))
  | .float (.infinite negative) => some negative
  | .float .undefined => some false
  | _ => none

/-- The text of a value: a text as it is, any other value as quoted. -/
def shown : Value → String
  | .str s => s
  | v => String.ofList v.quoted

/-- A text about a value in a message, unless the value has none. -/
def told (text : Value → String) (v : Value) : Except Mishap String :=
  if v.hasText then .ok (text v) else .error (Text.tooManyDigits none)

/-- A value quoted in a message. -/
def quoted : Value → Except Mishap String :=
  told (fun v => String.ofList v.quoted)

/-- Whether a value is one of the allowed one-character texts. -/
def isOneOf (allowed : List Char) : Value → Bool
  | .str s => allowed.any (fun c => s == String.singleton c)
  | _ => false

/-- The bullets of a list of nested lists. -/
def bulletChars : List Char := ['-', '*', '+']

/-- Whether some part of a value is no bullet; nothing for a value without parts to look at. -/
def holdsOtherThanBullets? : Value → Option Bool
  | .str s => some (s.toList.any (fun c => !bulletChars.contains c))
  | .list items => anyOther items
  | .map entries => anyOther (entries.map (fun entry => .scalar entry.1))
  | .set members => anyOther (members.map .scalar)
  | _ => none
where
  /-- Goes through the parts up to the first that is no bullet. -/
  anyOther : List Value → Option Bool
    | [] => some false
    | .str s :: rest => if Chars.occursIn s.toList bulletChars then anyOther rest else some true
    | _ :: _ => none

/-- The check of writing options, field by field. -/
def checkWriter (d : Draft) : Except Mishap Unit := do
  let emphasis := d.get "emphasis_symbol"
  unless isOneOf ['*', '_'] emphasis do
    throw (.badValue ("emphasis_symbol must be '*' or '_', got " ++ (← quoted emphasis)))
  let fence := d.get "code_fence_char"
  unless isOneOf ['\x60', '~'] fence do
    throw (.badValue ("code_fence_char must be '\x60' or '~', got " ++ (← quoted fence)))
  let bullets := d.get "bullet_symbols"
  let wrongBullets ← if !bullets.truthy then pure true else
    match holdsOtherThanBullets? bullets with
    | some other => pure other
    | none => throw .illTyped
  if wrongBullets then
    throw (.badValue ("bullet_symbols must be made of '-', '*' or '+', got " ++ (← quoted bullets)))
  let width := d.get "list_indent_width"
  match isBelow? 1 width with
  | none => throw .illTyped
  | some true => throw (.badValue ("list_indent_width must be positive, got " ++ (← told shown width)))
  | some false => pure ()
  let least := d.get "code_fence_min"
  match isBelow? 3 least with
  | none => throw .illTyped
  | some true => throw (.badValue ("code_fence_min must be at least 3, got " ++ (← told shown least)))
  | some false => pure ()

/-- The check that a section asks for. -/
def check (d : Draft) : Except Mishap Unit :=
  match d.owner with
  | .writer => d.checkWriter
  | _ => .ok ()

/-- A draft with fields changed, checked. A name that is no field is ill typed. -/
def update (d : Draft) (changes : List (String × Value)) : Except Mishap Draft := do
  if changes.all (fun change => d.owner.fieldNames.contains change.1) then
    let d := changes.foldl (fun d change => d.set change.1 change.2) d
    d.check
    return d
  else throw .illTyped

/-- A draft of a section with some fields given. -/
def ofFields (s : Section) (given : List (String × Value)) : Except Mishap Draft :=
  (default s).update given

/-- Whether a field counts as true. -/
def flag (d : Draft) (field : String) : Bool :=
  (d.get field).truthy

/-- A field as a natural number, zero when it is none. -/
def natural (d : Draft) (field : String) : Nat :=
  match d.get field with
  | .int i => i.toNat
  | .bool b => if b then 1 else 0
  | .float f => (f.toInt?.getD 0).toNat
  | _ => 0

/-- A field as a text, empty when it is none. -/
def text (d : Draft) (field : String) : Chars :=
  match d.get field with
  | .str s => s.toList
  | .list items => items.flatMap (fun item => match item with
    | .str s => s.toList
    | _ => [])
  | _ => []

/-- The reading options of a draft. -/
def toReader (d : Draft) : ReaderOptions where
  tables := d.flag "parse_tables"
  footnotes := d.flag "parse_footnotes"
  math := d.flag "parse_math"
  taskLists := d.flag "parse_task_lists"
  strikethrough := d.flag "parse_strikethrough"
  frontMatter := d.flag "parse_frontmatter"

def toSpacing (d : Draft) : SpacingOptions where
  text := d.flag "normalize_text"
  math := d.flag "normalize_math"

/-- A list with a first element in place of an empty one. -/
def orElse {α : Type} (fallback : α) : List α → { xs : List α // xs ≠ [] }
  | [] => ⟨[fallback], by simp⟩
  | x :: rest => ⟨x :: rest, by simp⟩

/-- The writing options of a draft; numbers below their least value are raised to it. -/
def toWriter (d : Draft) : WriterOptions :=
  let bullets := orElse Bullet.dash ((d.text "bullet_symbols").filterMap Bullet.ofChar?)
  { escape := d.flag "escape_special"
    emphasis := ((d.text "emphasis_symbol").head?.bind EmphasisMark.ofChar?).getD .star
    bullets := bullets.1
    indentWidth := max 1 (d.natural "list_indent_width")
    fence := ((d.text "code_fence_char").head?.bind FenceMark.ofChar?).getD .backtick
    fenceMin := max 3 (d.natural "code_fence_min")
    frontMatter := d.flag "metadata_frontmatter"
    bullets_ne := bullets.2
    indentWidth_pos := by omega
    fenceMin_le := by omega }

end Draft

end MixedScript.Settings
