import CodeCensus.Number.Text

/-!
# Dates and times of day

Calendar dates and moments as they occur in settings documents and reports, with their standard text.

Contents: `Date`, `TimeOfDay`, `Moment`, `Date.ofDayNumber`, `Date.dayNumber`, `Moment.isoText`,
`Moment.same`.
-/

namespace CodeCensus

/-- A day of the calendar. -/
structure Date where
  year : Nat
  month : Nat
  day : Nat
  deriving DecidableEq, Repr, Inhabited

/-- A time of day, to the microsecond. -/
structure TimeOfDay where
  hour : Nat
  minute : Nat
  second : Nat
  microsecond : Nat
  deriving DecidableEq, Repr, Inhabited

/-- A date with a time of day and, possibly, the offset of its clock in seconds. -/
structure Moment where
  date : Date
  time : TimeOfDay
  offset : Option Int
  deriving DecidableEq, Repr, Inhabited

/-- The digits of `n`, padded with zeros to `width`. -/
def padDigits (width n : Nat) : String :=
  let ds := natDigits n
  String.ofList (List.replicate (width - ds.length) '0') ++ ds

/-- The year has a leap day. -/
def isLeapYear (year : Nat) : Bool := year % 4 == 0 && (year % 100 != 0 || year % 400 == 0)

/-- The number of days of a month. -/
def daysInMonth (year month : Nat) : Nat :=
  if month = 2 then (if isLeapYear year then 29 else 28)
  else if month = 4 ∨ month = 6 ∨ month = 9 ∨ month = 11 then 30
  else 31

namespace Date

/-- Year, month and day, as in `2001-12-14`. -/
def isoText (d : Date) : String :=
  padDigits 4 d.year ++ "-" ++ padDigits 2 d.month ++ "-" ++ padDigits 2 d.day

/-- The date `days` days after 1970-01-01, by eras of 400 years that start on the first of March. -/
def ofDayNumber (days : Int) : Int × Nat × Nat :=
  let z := days + 719468
  let era := Int.fdiv z 146097
  let dayOfEra := (z - era * 146097).toNat
  let yearOfEra := (dayOfEra - dayOfEra / 1460 + dayOfEra / 36524 - dayOfEra / 146096) / 365
  let dayOfYear := dayOfEra - (365 * yearOfEra + yearOfEra / 4 - yearOfEra / 100)
  let m := (5 * dayOfYear + 2) / 153
  let day := dayOfYear - (153 * m + 2) / 5 + 1
  let month := if m < 10 then m + 3 else m - 9
  let year := (yearOfEra : Int) + era * 400
  (if month ≤ 2 then year + 1 else year, month, day)

/-- The number of days from 1970-01-01 to a date. -/
def dayNumber (d : Date) : Int :=
  let year : Int := if d.month ≤ 2 then (d.year : Int) - 1 else d.year
  let era := Int.fdiv year 400
  let yearOfEra := (year - era * 400).toNat
  let m := if d.month ≤ 2 then d.month + 9 else d.month - 3
  let dayOfYear := (153 * m + 2) / 5 + d.day - 1
  let dayOfEra := 365 * yearOfEra + yearOfEra / 4 - yearOfEra / 100 + dayOfYear
  era * 146097 + dayOfEra - 719468

end Date

/-- Hours, minutes and seconds, with a fraction only when there is one. -/
def TimeOfDay.isoText (t : TimeOfDay) : String :=
  padDigits 2 t.hour ++ ":" ++ padDigits 2 t.minute ++ ":" ++ padDigits 2 t.second ++
    (if t.microsecond = 0 then "" else "." ++ padDigits 6 t.microsecond)

/-- A clock offset such as `+02:00`. -/
def offsetText (seconds : Int) : String :=
  let n := seconds.natAbs
  (if seconds < 0 then "-" else "+") ++ padDigits 2 (n / 3600) ++ ":" ++ padDigits 2 (n / 60 % 60) ++
    (if n % 60 = 0 then "" else ":" ++ padDigits 2 (n % 60))

namespace Moment

/-- The text of a moment with the given mark between date and time. -/
def textWith (separator : String) (m : Moment) : String :=
  m.date.isoText ++ separator ++ m.time.isoText ++ (m.offset.map offsetText).getD ""

/-- The text of a moment, as in `2001-12-14T21:59:43+00:00`. -/
def isoText (m : Moment) : String := m.textWith "T"

/-- The microseconds from the start of 1970 to a moment by its own clock. -/
def clockMicroseconds (m : Moment) : Int :=
  let t := m.time
  1000000 * (86400 * m.date.dayNumber + 3600 * t.hour + 60 * t.minute + t.second) + t.microsecond

/-- Two moments are the same: with an offset when they are the same instant, without one when they show
    the same time. -/
def same (a b : Moment) : Bool :=
  match a.offset, b.offset with
  | none, none => a = b
  | some x, some y =>
    a.clockMicroseconds - 1000000 * x = b.clockMicroseconds - 1000000 * y
  | _, _ => false

end Moment
end CodeCensus
