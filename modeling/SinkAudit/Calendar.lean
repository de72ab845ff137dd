import SinkAudit.Text.Digit

/-!
# Dates and times

A YAML document may hold dates and times (`datetime.date`, `datetime.datetime`), as values and as keys of
mappings. Values show themselves as text when they are compared and when an error shows them; keys are
compared as days and moments. Both are defined here, with what keeps six numbers from being a time at all.
Nothing else of a calendar is needed: there is no arithmetic but what equality of moments takes.

- `Date`, `DateTime`: a day, and a moment of a day with an optional offset from universal time.
- `Date.check`, `DateTime.check`: which fields make a date or time, and what is wrong otherwise.
- `Date.iso`, `DateTime.iso`: the ISO 8601 text, a time's fraction being left out when it is zero.
- `Date.dayNumber`, `DateTime.sameMoment`: days counted from the first of the first year.
-/

namespace SinkAudit

/-- A day of the Gregorian calendar, extended to the first year. Its fields are in range if it was checked. -/
structure Date where
  year : Nat
  month : Nat
  day : Nat
  deriving DecidableEq

/-- A moment, in local time unless an offset in minutes is known. The two are never equal. -/
structure DateTime where
  date : Date
  hour : Nat
  minute : Nat
  second : Nat
  microsecond : Nat
  offset : Option Int
  deriving DecidableEq

/-- What is wrong with the fields of a date or time, in the order in which they are looked at. -/
inductive CalendarError where
  | year (n : Nat)
  | month
  | day
  | hour
  | minute
  | second
  /-- The offset from universal time, in minutes, is a day or more. -/
  | offset (minutes : Int)
  deriving DecidableEq

/-- Digits of a number, zeros filling up on the left. -/
def padded (width n : Nat) : String := String.ofList (Text.digitsOf 10 width n)

/-- A span of seconds as whole days, rounded down, and the seconds that remain. The seconds are never
negative, so that a span of minus one second is a day back and the rest of it forward. -/
def daysAndSeconds (seconds : Int) : Int × Int := (seconds / 86400, seconds % 86400)

/-- A span of seconds, spelled as a call that makes it (the `repr` of a `timedelta`). -/
def spanLiteral (seconds : Int) : String :=
  let (days, rest) := daysAndSeconds seconds
  let parts := (if days = 0 then [] else ["days=" ++ toString days])
    ++ (if rest = 0 then [] else ["seconds=" ++ toString rest])
  "datetime.timedelta(" ++ (if parts.isEmpty then "0" else ", ".intercalate parts) ++ ")"

/-- The text of the error. -/
def CalendarError.message : CalendarError → String
  | year n => "year " ++ toString n ++ " is out of range"
  | month => "month must be in 1..12"
  | day => "day is out of range for month"
  | hour => "hour must be in 0..23"
  | minute => "minute must be in 0..59"
  | second => "second must be in 0..59"
  | offset minutes =>
    "offset must be a timedelta strictly between -timedelta(hours=24) and timedelta(hours=24), not "
      ++ spanLiteral (minutes * 60) ++ "."

namespace Date

/-- Is February of the year a day longer? -/
def isLeap (year : Nat) : Bool := year % 4 == 0 && (year % 100 != 0 || year % 400 == 0)

/-- The number of days of a month. -/
def daysInMonth (year month : Nat) : Nat :=
  if month = 2 then if isLeap year then 29 else 28
  else if month = 4 ∨ month = 6 ∨ month = 9 ∨ month = 11 then 30
  else 31

/-- The date with these fields, if there is one: years run from 1 to 9999. -/
def check (year month day : Nat) : Except CalendarError Date :=
  if year = 0 ∨ 9999 < year then .error (.year year)
  else if month = 0 ∨ 12 < month then .error .month
  else if day = 0 ∨ daysInMonth year month < day then .error .day
  else .ok ⟨year, month, day⟩

/-- Days from the first of the first year, which is day one. -/
def dayNumber (d : Date) : Nat :=
  let past := d.year - 1
  let inMonths := (List.range (d.month - 1)).foldl (fun n m => n + daysInMonth d.year (m + 1)) 0
  past * 365 + past / 4 - past / 100 + past / 400 + inMonths + d.day

/-- The ISO 8601 text. -/
def iso (d : Date) : String := padded 4 d.year ++ "-" ++ padded 2 d.month ++ "-" ++ padded 2 d.day

end Date

namespace DateTime

/-- The time with these fields, if there is one. The offset is looked at first, then the date, then the
time of the day, which is the order in which the errors take precedence. -/
def check (date : Except CalendarError Date) (hour minute second microsecond : Nat)
    (offset : Option Int) : Except CalendarError DateTime :=
  match offset.filter fun minutes => 1440 ≤ minutes.natAbs with
  | some minutes => .error (.offset minutes)
  | none =>
    match date with
    | .error e => .error e
    | .ok d =>
      if 23 < hour then .error .hour
      else if 59 < minute then .error .minute
      else if 59 < second then .error .second
      else .ok ⟨d, hour, minute, second, microsecond, offset⟩

/-- The offset from universal time as text. -/
def offsetText (minutes : Int) : String :=
  (if minutes < 0 then "-" else "+") ++ padded 2 (minutes.natAbs / 60) ++ ":"
    ++ padded 2 (minutes.natAbs % 60)

/-- The ISO 8601 text, with a given separator between the day and the time. Fractions have six digits, or are
left out if there is none. -/
def isoWith (separator : String) (t : DateTime) : String :=
  t.date.iso ++ separator ++ padded 2 t.hour ++ ":" ++ padded 2 t.minute ++ ":" ++ padded 2 t.second
    ++ (if t.microsecond = 0 then "" else "." ++ padded 6 t.microsecond)
    ++ (t.offset.map offsetText).getD ""

/-- The ISO 8601 text. -/
def iso (t : DateTime) : String := t.isoWith "T"

/-- Microseconds from the start of the calendar, less the offset. Two times with offsets are equal if these
are, though they may fall on different days. -/
def moment (t : DateTime) : Int :=
  (((t.date.dayNumber * 24 + t.hour) * 60 + t.minute : Int) - t.offset.getD 0) * 60000000
    + t.second * 1000000 + t.microsecond

/-- Two times are the same moment; one whose offset is unknown never is one whose offset is known. -/
def sameMoment (a b : DateTime) : Bool :=
  a.offset.isSome == b.offset.isSome && a.moment == b.moment

end DateTime

end SinkAudit
