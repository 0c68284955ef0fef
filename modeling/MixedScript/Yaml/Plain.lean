import MixedScript.Calendar
import MixedScript.Text.Float
import MixedScript.Text.Integer
import MixedScript.Text.LetterCase
import MixedScript.Value

/-!
Scalars: what a text stands for. The form of an unquoted text decides its type; a few texts have the form of a
number or a date and yet no value. With its type given, a text may have other forms too.
-/

namespace MixedScript.Yaml

open Text (isHexDigit decimalValue splitSign)

/-- The types that plain texts can have. -/
inductive PlainType where
  | bool | float | int | merge | null | timestamp | default | special | str
  deriving DecidableEq, Repr

/-- Digits and underscores that start with a digit. -/
def isDigitRun : Chars → Bool
  | [] => false
  | c :: rest => c.isDigit && rest.all (fun d => d.isDigit || d == '_')

/-- One or two digits below sixty. -/
def isSixtieth : Chars → Bool
  | [a] => a.isDigit
  | [a, b] => '0' ≤ a && a ≤ '5' && b.isDigit
  | _ => false

/-- Whether parts between colons are a number in base sixty. -/
def isSexagesimal : List Chars → Bool
  | [] | [_] => false
  | first :: rest => isDigitRun first && rest.all isSixtieth

/-- Whether a text without sign has the form of an integer. -/
def isIntBody (cs : Chars) : Bool :=
  match cs with
  | ['0'] => true
  | '0' :: 'b' :: rest => !rest.isEmpty && rest.all (fun c => c == '0' || c == '1' || c == '_')
  | '0' :: 'x' :: rest => !rest.isEmpty && rest.all (fun c => isHexDigit c || c == '_')
  | '0' :: rest => rest.all (fun c => ('0' ≤ c && c ≤ '7') || c == '_')
  | _ => isDigitRun cs || isSexagesimal (Chars.splitAt ':' cs)

/-- Whether a text is empty or an exponent with its sign. -/
def isExponent : Chars → Bool
  | [] => true
  | e :: s :: rest =>
    (e == 'e' || e == 'E') && (s == '-' || s == '+') && !rest.isEmpty && rest.all Char.isDigit
  | _ => false

/-- Whether a text is digits and underscores and then possibly an exponent. -/
def isFraction (cs : Chars) : Bool :=
  isExponent (cs.dropWhile (fun c => c.isDigit || c == '_'))

/-- Whether a text has the form of a float. -/
def isFloat (cs : Chars) : Bool :=
  let (_, body) := splitSign cs
  match body with
  | '.' :: rest =>
    rest == "inf".toList || rest == "Inf".toList || rest == "INF".toList ||
      (body == cs && (rest == "nan".toList || rest == "NaN".toList || rest == "NAN".toList ||
        ((rest.head?.map Char.isDigit).getD false && isFraction rest)))
  | _ =>
    match Chars.cutAt? ['.'] body with
    | none => false
    | some (whole, fraction) =>
      (isDigitRun whole && isFraction fraction) ||
        (isSexagesimal (Chars.splitAt ':' whole) && fraction.all (fun c => c.isDigit || c == '_'))

/-- Between `least` and `most` digits at the start of a text, and the rest. -/
def takeDigits? (least most : Nat) (cs : Chars) : Option (Nat × Chars) :=
  let ds := (cs.take most).takeWhile Char.isDigit
  if ds.length < least then none else some (decimalValue ds, cs.drop ds.length)

/-- What follows one of two characters. -/
def afterEither? (a b : Char) : Chars → Option Chars
  | c :: rest => if c == a || c == b then some rest else none
  | [] => none

/-- The offset from universal time at the end of a timestamp. -/
def takeOffset? : Chars → Option (Option Int)
  | [] => some none
  | ['Z'] => some (some 0)
  | s :: rest =>
    if s == '-' || s == '+' then do
      let (hours, rest) ← takeDigits? 1 2 rest
      let minutes ← match rest with
        | [] => some 0
        | ':' :: more =>
          match takeDigits? 2 2 more with
          | some (m, []) => some m
          | _ => none
        | _ => none
      let total : Int := 60 * hours + minutes
      return some (if s == '-' then -total else total)
    else none

/-- A timestamp: a date, and a time of day unless the date stands alone. -/
def timestamp? (cs : Chars) : Option (CalendarDate × Option TimeOfDay) := do
  let (year, rest) ← takeDigits? 4 4 cs
  let rest ← afterEither? '-' '-' rest
  let (month, rest) ← takeDigits? 1 2 rest
  let rest ← afterEither? '-' '-' rest
  let (day, rest) ← takeDigits? 1 2 rest
  if rest.isEmpty then some (⟨year, month, day⟩, none)
  else
    let rest ← match afterEither? 'T' 't' rest with
      | some rest => some rest
      | none =>
        let trimmed := rest.dropWhile Text.isInlineBlank
        if trimmed.length < rest.length then some trimmed else none
    let (hour, rest) ← takeDigits? 1 2 rest
    let rest ← afterEither? ':' ':' rest
    let (minute, rest) ← takeDigits? 2 2 rest
    let rest ← afterEither? ':' ':' rest
    let (second, rest) ← takeDigits? 2 2 rest
    let (micro, rest) : Nat × Chars := match rest with
      | '.' :: more =>
        let ds := more.takeWhile Char.isDigit
        (microOfDigits ds, more.drop ds.length)
      | _ => (0, rest)
    let trimmed := rest.dropWhile Text.isInlineBlank
    let offset ← if rest.isEmpty then some none else if trimmed.isEmpty then none else takeOffset? trimmed
    some (⟨year, month, day⟩, some ⟨hour, minute, second, micro, offset⟩)

/-- Whether a text has the form of a timestamp. In a date that stands alone every part is written in full. -/
def isTimestamp (cs : Chars) : Bool :=
  match timestamp? cs with
  | none => false
  | some (_, none) => cs.length == 10
  | some (_, some _) => true

/-- Words for the truth values, with the value each stands for. -/
def boolWords : List (String × Bool) := [
  ("yes", true), ("Yes", true), ("YES", true), ("no", false), ("No", false), ("NO", false),
  ("true", true), ("True", true), ("TRUE", true), ("false", false), ("False", false), ("FALSE", false),
  ("on", true), ("On", true), ("ON", true), ("off", false), ("Off", false), ("OFF", false)]

/-- The truth value that a word stands for. -/
def boolOf? (cs : Chars) : Option Bool :=
  (boolWords.find? (fun entry => entry.1.toList == cs)).map Prod.snd

/-- The type of a plain text. -/
def plainType (cs : Chars) : PlainType :=
  if (boolOf? cs).isSome then .bool
  else if isFloat cs then .float
  else if isIntBody (splitSign cs).2 then .int
  else if cs == ['<', '<'] then .merge
  else if cs.isEmpty || cs == ['~'] || cs == "null".toList || cs == "Null".toList || cs == "NULL".toList then .null
  else if isTimestamp cs then .timestamp
  else if cs == ['='] then .default
  else if cs == ['!'] || cs == ['&'] || cs == ['*'] then .special
  else .str

/-- The integer that a text stands for: in base ten or sixty, or in the base that its start tells. Underscores do
not count. -/
def intOf (cs : Chars) : Except Mishap Int := do
  let (negative, body) := splitSign (cs.filter (fun c => c != '_'))
  let n : Int ← match body with
    | [] => .error .missingItem
    | ['0'] => .ok 0
    | '0' :: 'b' :: ds => Text.integerIn 2 ds
    | '0' :: 'x' :: ds => Text.integerIn 16 ds
    | '0' :: _ => Text.integerIn 8 body
    | _ => (Chars.splitAt ':' body).foldlM (fun n part => do return 60 * n + (← Text.integerIn 10 part)) 0
  return if negative then -n else n

/-- The float that a text without colons stands for. -/
def floatPart (cs : Chars) : Except Mishap Decimal.Binary64 :=
  match Text.float? cs with
  | some f => .ok f
  | none => .error (.badValue ("could not convert string to float: " ++ String.ofList (Text.quoted cs)))

/-- The sum of parts in base sixty, the last one for the ones. -/
def sexagesimal (parts : List Decimal.Binary64) : Decimal.Binary64 :=
  (parts.reverse.zipIdx.map (fun (part, place) => part.mul (.ofInt (Nat.pow 60 place)))).foldl
    Decimal.Binary64.add (.ofInt 0)

/-- The float that a text stands for, in base ten or sixty. Underscores and the case of letters do not count. -/
def floatOf (cs : Chars) : Except Mishap Decimal.Binary64 := do
  let written := Text.toLower (cs.filter (fun c => c != '_'))
  if written.isEmpty then .error .missingItem
  let (negative, body) := splitSign written
  let value ←
    if body == ".inf".toList then pure (.infinite false)
    else if body == ".nan".toList then pure .undefined
    else
      match Chars.splitAt ':' body with
      | [single] => floatPart single
      | parts => do return sexagesimal (← parts.mapM floatPart)
  return if negative then value.negate else value

/-- The date that a text stands for, or the date and time of day. A line feed at the end does not count. -/
def timestampOf (cs : Chars) : Except Mishap Scalar := do
  let written := if cs.getLast? == some '\n' then cs.dropLast else cs
  match timestamp? written with
  | none => .error .missingMember
  | some (date, none) => do
    date.check
    return .date (String.ofList date.iso)
  | some (date, some time) => do
    time.checkOffset
    date.check
    time.check
    return .date (String.ofList (date.iso ++ 'T' :: time.iso))

/-- The value of a plain text. -/
def plainScalar (cs : Chars) : Except Mishap Scalar :=
  match plainType cs with
  | .bool => .ok (.bool ((boolOf? cs).getD false))
  | .float => do return .float (← floatOf cs)
  | .int => do return .int (← intOf cs)
  | .null => .ok .null
  | .timestamp => timestampOf cs
  | _ => .ok (.str (String.ofList cs))

end MixedScript.Yaml
