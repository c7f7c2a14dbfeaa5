import StackManifest.Fault
import StackManifest.Json.Reader

/-!
# Dates in a markup text

A date is written with hyphens, and with a time of day after it if need be: the hours,
minutes and seconds, a fraction of the second, and the distance from universal time.

* `WrittenTime` and `WrittenDate` – what is **written**, as numbers;
* `WrittenDate.read?` – the date that a whole text writes, if it has that form;
* `WrittenDate.toValue` – the date or the moment that it stands for, if there is one.
-/

namespace StackManifest.Yaml

open Json (isBasicDigit)

/-- A written **time of day**: the fraction of the second in millionths, and the minutes of the
distance from universal time. -/
structure WrittenTime where
  hour : Nat
  minute : Nat
  second : Nat
  microsecond : Nat
  offset : Option Int

/-- A written **date**. -/
structure WrittenDate where
  year : Nat
  month : Nat
  day : Nat
  time : Option WrittenTime

/-- A reading of the beginning of a text, which may not have the form that is read. -/
abbrev Scan (α : Type) := StateT (List Char) Option α

namespace Scan

/-- The next digits, at least and at most so many, as a number. -/
def number (least most : Nat) : Scan Nat := fun cs =>
  let ds := (cs.take most).takeWhile isBasicDigit
  if ds.length < least then none else some (Text.digitsValue ds, cs.drop ds.length)

/-- One of some characters, and which. -/
def oneOf (s : List Char) : Scan Char := fun cs =>
  match cs with
  | c :: cs => if s.contains c then some (c, cs) else none
  | [] => none

/-- Any number of characters of a class. -/
def many (p : Char → Bool) : Scan (List Char) := fun cs => some (cs.takeWhile p, cs.dropWhile p)

/-- The end of the text, where a line feed may come last. -/
def ends : Scan Unit := fun cs => if cs = [] ∨ cs = ['\n'] then some ((), []) else none

/-- A reading, or nothing if it does not have its form. -/
def attempt (s : Scan α) : Scan (Option α) := fun cs =>
  match s cs with
  | some (a, cs) => some (some a, cs)
  | none => some (none, cs)

end Scan

open Scan

/-- A space or a tab. -/
def isBlankChar (c : Char) : Bool := c = ' ' || c = '\t'

/-- The **distance** from universal time in minutes, with the blanks before it. -/
def scanZone : Scan Int := do
  discard (many isBlankChar)
  match ← oneOf ['Z', '-', '+'] with
  | 'Z' => return 0
  | sign =>
    let hours ← number 1 2
    let minutes ← attempt (do discard (oneOf [':']); number 2 2)
    let total : Int := hours * 60 + minutes.getD 0
    return if sign = '-' then -total else total

/-- A fraction of a second, after its point, in millionths. -/
def scanFraction : Scan Nat := do
  discard (oneOf ['.'])
  let ds := (← many isBasicDigit).take 6
  return Text.digitsValue ds * Number.tenTo (6 - ds.length)

/-- What comes between a date and a time of day. -/
def scanSeparator : Scan Unit := do
  match ← attempt (oneOf ['T', 't']) with
  | some _ => return
  | none => if (← many isBlankChar).isEmpty then failure

/-- A **time of day**, with what separates it from the date. -/
def scanTime : Scan WrittenTime := do
  scanSeparator
  let hour ← number 1 2
  discard (oneOf [':'])
  let minute ← number 2 2
  discard (oneOf [':'])
  let second ← number 2 2
  let microsecond := (← attempt scanFraction).getD 0
  return { hour, minute, second, microsecond, offset := ← attempt scanZone }

/-- A date, with or without a time of day. -/
def scanDate : Scan WrittenDate := do
  let year ← number 4 4
  discard (oneOf ['-'])
  let month ← number 1 2
  discard (oneOf ['-'])
  let day ← number 1 2
  let time ← attempt scanTime
  ends
  return { year, month, day, time }

/-- The date that a whole text **writes**. -/
def WrittenDate.read? (cs : List Char) : Option WrittenDate := (scanDate.run cs).map (·.1)

/-- The date or the moment that is written, if there is one, with its label. -/
def WrittenDate.toValue (d : WrittenDate) (label : Label) : Except Fault Value := do
  let day : Date := ⟨d.year, d.month, d.day⟩
  match d.time with
  | none => return .date label (← day.check.mapError .calendar)
  | some t =>
    let m : Moment := ⟨day, t.hour, t.minute, t.second, t.microsecond, t.offset⟩
    return .moment label (← m.check.mapError .calendar)

end StackManifest.Yaml
