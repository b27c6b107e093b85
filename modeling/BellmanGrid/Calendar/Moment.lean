import BellmanGrid.Decimal.Format

/-!
Calendar dates and moments of a day, as a configuration document may hold them.
-/

namespace BellmanGrid

structure CalendarDate where
  year : Nat
  month : Nat
  day : Nat
deriving Repr, DecidableEq

/-- A time on a day.  The offset from universal time is in seconds; without one the moment is
local. -/
structure Moment where
  date : CalendarDate
  hour : Nat
  minute : Nat
  second : Nat
  microsecond : Nat
  offset : Option Int
deriving Repr, DecidableEq

/-- What can be wrong with the fields of a date or a moment, in the order of the checks. -/
inductive CalendarError where
  | year (year : Nat)
  | month
  | day
  | hour
  | minute
  | second
  | offset (seconds : Int)
deriving Repr, DecidableEq

namespace CalendarDate

/-- Leap years are those divisible by four, less the centuries not divisible by four hundred. -/
def isLeap (year : Nat) : Bool :=
  year % 4 = 0 ∧ (year % 100 ≠ 0 ∨ year % 400 = 0)

def monthLength (year month : Nat) : Nat :=
  if month = 2 then (if isLeap year then 29 else 28)
  else if [4, 6, 9, 11].contains month then 30
  else 31

/-- Accepts a day that exists. -/
def check (date : CalendarDate) : Except CalendarError CalendarDate :=
  if date.year = 0 then .error (.year date.year)
  else if date.month = 0 ∨ 12 < date.month then .error .month
  else if date.day = 0 ∨ monthLength date.year date.month < date.day then .error .day
  else .ok date

/-- The number of days up to a day, from the beginning of the calendar. -/
def ordinal (date : CalendarDate) : Nat :=
  let before := date.year - 1
  365 * before + before / 4 - before / 100 + before / 400 +
    (List.range (date.month - 1)).foldl
      (fun days month => days + monthLength date.year (month + 1)) 0 +
    date.day

/-- Year, month and day with hyphens. -/
def text (date : CalendarDate) : String :=
  s!"{Decimal.padded 4 date.year}-{Decimal.padded 2 date.month}-{Decimal.padded 2 date.day}"

end CalendarDate

/-- A span of seconds as whole days, which may be negative, and the seconds left over. -/
def spanFields (seconds : Int) : String :=
  let days := Int.fdiv seconds 86400
  let rest := Int.fmod seconds 86400
  let fields := (if days = 0 then [] else [s!"days={days}"]) ++
    (if rest = 0 then [] else [s!"seconds={rest}"])
  if fields.isEmpty then "datetime.timedelta(0)"
  else "datetime.timedelta(" ++ ", ".intercalate fields ++ ")"

namespace Moment

/-- Accepts a moment that exists, with an offset of less than a day. -/
def check (moment : Moment) : Except CalendarError Moment := do
  match moment.offset with
  | some seconds => if 86400 ≤ seconds.natAbs then throw (.offset seconds)
  | none => pure ()
  discard moment.date.check
  if 23 < moment.hour then throw .hour
  if 59 < moment.minute then throw .minute
  if 59 < moment.second then throw .second
  return moment

/-- The microseconds from the beginning of the calendar, in universal time if there is an offset
from it. -/
def microseconds (moment : Moment) : Int :=
  let seconds : Int :=
    86400 * moment.date.ordinal + 3600 * moment.hour + 60 * moment.minute + moment.second
  (seconds - moment.offset.getD 0) * 1000000 + moment.microsecond

/-- Are two moments the same point in time?  A local moment is never the same as one with an
offset. -/
def isSame (left right : Moment) : Bool :=
  left.offset.isSome == right.offset.isSome && left.microseconds == right.microseconds

/-- The offset as hours and minutes with a sign. -/
def offsetText (seconds : Int) : String :=
  let minutes := seconds.natAbs / 60
  let rest := seconds.natAbs % 60
  (if seconds < 0 then "-" else "+") ++ Decimal.padded 2 (minutes / 60) ++ ":" ++
    Decimal.padded 2 (minutes % 60) ++ (if rest = 0 then "" else ":" ++ Decimal.padded 2 rest)

/-- Date, time and offset. -/
def text (moment : Moment) : String :=
  s!"{moment.date.text} {Decimal.padded 2 moment.hour}:{Decimal.padded 2 moment.minute}:" ++
    Decimal.padded 2 moment.second ++
    (if moment.microsecond = 0 then "" else "." ++ Decimal.padded 6 moment.microsecond) ++
    (moment.offset.elim "" offsetText)

/-- The fields in the notation of a constructor call: seconds and microseconds only when needed. -/
def literal (moment : Moment) : String :=
  let always := [moment.date.year, moment.date.month, moment.date.day, moment.hour, moment.minute]
  let fields :=
    if moment.microsecond ≠ 0 then always ++ [moment.second, moment.microsecond]
    else if moment.second ≠ 0 then always ++ [moment.second]
    else always
  let zone := match moment.offset with
    | none => ""
    | some seconds =>
        if seconds = 0 then ", tzinfo=datetime.timezone.utc"
        else s!", tzinfo=datetime.timezone({spanFields seconds})"
  "datetime.datetime(" ++ ", ".intercalate (fields.map Nat.repr) ++ zone ++ ")"

end Moment

def CalendarError.message : CalendarError → String
  | .year number => s!"year {number} is out of range"
  | .month => "month must be in 1..12"
  | .day => "day is out of range for month"
  | .hour => "hour must be in 0..23"
  | .minute => "minute must be in 0..59"
  | .second => "second must be in 0..59"
  | .offset seconds =>
      "offset must be a timedelta strictly between -timedelta(hours=24) and " ++
        s!"timedelta(hours=24), not {spanFields seconds}."

end BellmanGrid
