import MixedScript.Error
import MixedScript.Text.Chars

/-!
Calendar dates and times of day, checked field by field, and their ISO form.
-/

namespace MixedScript

/-- A time of day, with the offset from universal time in minutes where one is given. -/
structure TimeOfDay where
  /-- Hours since midnight. -/
  hour : Nat
  /-- Minutes since the hour. -/
  minute : Nat
  /-- Seconds since the minute. -/
  second : Nat
  /-- Millionths of a second. -/
  micro : Nat
  /-- Minutes ahead of universal time. -/
  offset : Option Int
  deriving DecidableEq, Repr

structure CalendarDate where
  year : Nat
  month : Nat
  /-- The day of the month, from one. -/
  day : Nat
  deriving DecidableEq, Repr

namespace CalendarDate

/-- Whether a year has a leap day. -/
def isLeap (year : Nat) : Bool :=
  (year % 4 == 0 && year % 100 != 0) || year % 400 == 0

/-- The number of days of a month. -/
def daysIn (year month : Nat) : Nat :=
  if month == 2 then (if isLeap year then 29 else 28)
  else if month == 4 || month == 6 || month == 9 || month == 11 then 30
  else 31

/-- Checks a date: the year first, then the month, then the day. -/
def check (d : CalendarDate) : Except Mishap Unit :=
  if d.year = 0 ∨ 9999 < d.year then .error (.badValue ("year " ++ String.ofList (Chars.ofNat d.year) ++ " is out of range"))
  else if d.month = 0 ∨ 12 < d.month then .error (.badValue "month must be in 1..12")
  else if d.day = 0 ∨ daysIn d.year d.month < d.day then .error (.badValue "day is out of range for month")
  else .ok ()

end CalendarDate

/-- A number in decimal digits, filled up with zeros to a width. -/
def padded (width n : Nat) : Chars :=
  let ds := Chars.ofNat n
  List.replicate (width - ds.length) '0' ++ ds

/-- The ISO form of a date. -/
def CalendarDate.iso (d : CalendarDate) : Chars :=
  padded 4 d.year ++ '-' :: padded 2 d.month ++ '-' :: padded 2 d.day

namespace TimeOfDay

/-- Minutes as a message shows them: in days and seconds, without the one that is zero. -/
def shownMinutes (o : Int) : String :=
  let part (name : String) (i : Int) := if i = 0 then [] else [name ++ "=" ++ String.ofList (Chars.ofInt i)]
  "datetime.timedelta(" ++ ", ".intercalate (part "days" (o.fdiv 1440) ++ part "seconds" (60 * o.fmod 1440)) ++ ")"

/-- Checks the offset from universal time, which is less than a day. -/
def checkOffset (t : TimeOfDay) : Except Mishap Unit :=
  match t.offset.filter (fun o => 1440 ≤ o.natAbs) with
  | none => .ok ()
  | some o =>
    .error (.badValue
      ("offset must be a timedelta strictly between -timedelta(hours=24) and timedelta(hours=24), not " ++
        shownMinutes o ++ "."))

/-- Checks a time of day: hour, minute, second. -/
def check (t : TimeOfDay) : Except Mishap Unit :=
  if 23 < t.hour then .error (.badValue "hour must be in 0..23")
  else if 59 < t.minute then .error (.badValue "minute must be in 0..59")
  else if 59 < t.second then .error (.badValue "second must be in 0..59")
  else .ok ()

/-- The ISO form of an offset from universal time. -/
def offsetIso (o : Int) : Chars :=
  (if o < 0 then '-' else '+') :: padded 2 (o.natAbs / 60) ++ ':' :: padded 2 (o.natAbs % 60)

/-- The ISO form of a time of day. -/
def iso (t : TimeOfDay) : Chars :=
  padded 2 t.hour ++ ':' :: padded 2 t.minute ++ ':' :: padded 2 t.second ++
    (if t.micro = 0 then [] else '.' :: padded 6 t.micro) ++ (t.offset.map offsetIso).getD []

end TimeOfDay

/-- The millionths that a row of decimal digits after the point stands for; digits beyond the sixth are
dropped. -/
def microOfDigits (ds : Chars) : Nat :=
  let six := (ds ++ List.replicate 6 '0').take 6
  six.foldl (fun n c => 10 * n + (c.toNat - 48)) 0

end MixedScript
