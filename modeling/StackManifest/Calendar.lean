/-!
# Dates and times

The dates that a document may hold, with the time of day and the distance from universal
time that may go with them.

* `Date` and `Moment` – a day, and a **moment** of a day;
* `CalendarFault` – why numbers are no date;
* `Date.check` and `Moment.check` – the numbers as a date, if they are one;
* `Date.iso`, `Moment.iso` – the standard written form, and `Date.shown`, `Moment.shown` –
  the form inside a list or a message.
-/

namespace StackManifest

/-- A **day**. -/
structure Date where
  year : Nat
  month : Nat
  day : Nat
  deriving DecidableEq, Repr

/-- A **moment** of a day: the time with a millionth of a second, and the minutes that its
clock is ahead of universal time, where they are known. -/
structure Moment where
  date : Date
  hour : Nat
  minute : Nat
  second : Nat
  microsecond : Nat
  offset : Option Int
  deriving DecidableEq, Repr

/-- Why some numbers are no date. -/
inductive CalendarFault where
  | year (n : Nat)
  | month
  | day
  | hour
  | minute
  | second
  | offset (minutes : Int)
  deriving DecidableEq, Repr

namespace Calendar

/-- A number with a least count of digits. -/
def padded (width n : Nat) : String :=
  let ds := Nat.toDigits 10 n
  String.ofList (List.replicate (width - ds.length) '0' ++ ds)

/-- A leap year. -/
def isLeap (year : Nat) : Bool := year % 4 == 0 && (year % 100 != 0 || year % 400 == 0)

/-- The number of days in a month. -/
def monthDays (year month : Nat) : Nat :=
  if month = 2 then (if isLeap year then 29 else 28)
  else if month = 4 ∨ month = 6 ∨ month = 9 ∨ month = 11 then 30
  else 31

/-- A span of minutes as whole days and the seconds of the day that remain. -/
def spanShown (minutes : Int) : String :=
  let days := minutes.fdiv 1440
  let seconds := (minutes.fmod 1440) * 60
  let parts := (if days = 0 then [] else [s!"days={days}"])
    ++ (if seconds = 0 then [] else [s!"seconds={seconds}"])
  "datetime.timedelta(" ++ (if parts.isEmpty then "0" else ", ".intercalate parts) ++ ")"

end Calendar

open Calendar

/-- The wording of a fault. -/
def CalendarFault.message : CalendarFault → String
  | .year n => s!"year {n} is out of range"
  | .month => "month must be in 1..12"
  | .day => "day is out of range for month"
  | .hour => "hour must be in 0..23"
  | .minute => "minute must be in 0..59"
  | .second => "second must be in 0..59"
  | .offset m => "offset must be a timedelta strictly between -timedelta(hours=24) and "
      ++ "timedelta(hours=24), not " ++ spanShown m ++ "."

/-- The date, if the numbers are one. -/
def Date.check (d : Date) : Except CalendarFault Date :=
  if d.year < 1 ∨ 9999 < d.year then .error (.year d.year)
  else if d.month < 1 ∨ 12 < d.month then .error .month
  else if d.day < 1 ∨ monthDays d.year d.month < d.day then .error .day
  else .ok d

/-- The moment, if the numbers are one. The distance from universal time is less than a
day. -/
def Moment.check (m : Moment) : Except CalendarFault Moment := do
  match m.offset with
  | some o => if 1440 ≤ o.natAbs then throw (.offset o)
  | none => pure ()
  discard m.date.check
  if 24 ≤ m.hour then throw .hour
  if 60 ≤ m.minute then throw .minute
  if 60 ≤ m.second then throw .second
  return m

/-- The written form of a day. -/
def Date.iso (d : Date) : String :=
  s!"{padded 4 d.year}-{padded 2 d.month}-{padded 2 d.day}"

/-- The written form of a moment, with a separator between the day and the time. -/
def Moment.iso (separator : String) (m : Moment) : String :=
  let fraction := if m.microsecond = 0 then "" else "." ++ padded 6 m.microsecond
  let zone := match m.offset with
    | none => ""
    | some o =>
      (if o < 0 then "-" else "+") ++ padded 2 (o.natAbs / 60) ++ ":" ++ padded 2 (o.natAbs % 60)
  m.date.iso ++ separator ++ s!"{padded 2 m.hour}:{padded 2 m.minute}:{padded 2 m.second}"
    ++ fraction ++ zone

/-- A day inside a list. -/
def Date.shown (d : Date) : String := s!"datetime.date({d.year}, {d.month}, {d.day})"

/-- A moment inside a list: trailing parts of the time that are zero are left out. -/
def Moment.shown (m : Moment) : String :=
  let seconds :=
    if m.microsecond ≠ 0 then s!", {m.second}, {m.microsecond}"
    else if m.second ≠ 0 then s!", {m.second}" else ""
  let zone := match m.offset with
    | none => ""
    | some 0 => ", tzinfo=datetime.timezone.utc"
    | some o => s!", tzinfo=datetime.timezone({spanShown o})"
  s!"datetime.datetime({m.date.year}, {m.date.month}, {m.date.day}, {m.hour}, {m.minute}"
    ++ seconds ++ zone ++ ")"

/-- The days before the first of January of a year. -/
def Calendar.daysBefore (year : Nat) : Nat :=
  let y := year - 1
  365 * y + y / 4 - y / 100 + y / 400

/-- The microseconds from the first day of the calendar, by the clock of the moment. -/
def Moment.clock (m : Moment) : Int :=
  let months := (List.range (m.date.month - 1)).map fun k => monthDays m.date.year (k + 1)
  let days := months.foldr (· + ·) (daysBefore m.date.year) + m.date.day
  ((((days * 24 + m.hour) * 60 + m.minute) * 60 + m.second) * 1000000 + m.microsecond : Nat)

/-- Whether two moments are the **same**: both without a known distance from universal time
and the same by the clock, or the same in universal time. -/
def Moment.same (a b : Moment) : Bool :=
  match a.offset, b.offset with
  | none, none => a.clock == b.clock
  | some p, some q => a.clock - p * 60000000 == b.clock - q * 60000000
  | _, _ => false

end StackManifest
