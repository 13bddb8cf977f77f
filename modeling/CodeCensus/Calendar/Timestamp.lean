import CodeCensus.Calendar.Date
import CodeCensus.Number.Double

/-!
# Timestamps

Seconds since 1970 as a date and time in universal time, rounded to microseconds with ties to even.

Contents: `TimestampFault`, `timestampText`.
-/

namespace CodeCensus

/-- Why a number of seconds is no date. -/
inductive TimestampFault where
  | notANumber
  | outOfRange
  | unrepresentable
  | yearOutOfRange (year : Int)
  deriving DecidableEq, Repr

/-- The wording of a fault. -/
def TimestampFault.message : TimestampFault → String
  | notANumber => "Invalid value NaN (not a number)"
  | outOfRange => "timestamp out of range for platform time_t"
  | unrepresentable => "[Errno 75] Value too large for defined data type"
  | yearOutOfRange year => "year " ++ intText year ++ " is out of range"

/-- Whole seconds and microseconds of a number of seconds. The fraction is scaled as a double and then
    rounded; a full or negative second is carried. -/
def splitSeconds (x : Double) : Int × Int :=
  match x.truncate? with
  | none => (0, 0)
  | some whole =>
    let fraction := (x - Double.ofInt whole) * Double.ofInt 1000000
    let micros := fraction.roundInt
    if 1000000 ≤ micros then (whole + 1, micros - 1000000)
    else if micros < 0 then (whole - 1, micros + 1000000)
    else (whole, micros)

/-- The moment `seconds` whole seconds and `micros` microseconds after 1970-01-01. -/
def momentOf (seconds micros : Int) : Except TimestampFault Moment :=
  let days := Int.fdiv seconds 86400
  let rest := (Int.fmod seconds 86400).toNat
  let (year, month, day) := Date.ofDayNumber days
  if year < -2147481748 || 2147485547 < year then .error .unrepresentable
  else if year < 1 || 9999 < year then .error (.yearOutOfRange year)
  else .ok ⟨⟨year.toNat, month, day⟩, ⟨rest / 3600, rest / 60 % 60, rest % 60, micros.toNat⟩, some 0⟩

/-- The first number of seconds beyond the signed 64-bit range. -/
def secondsLimit : Int := 9223372036854775808

/-- The moment of a number of seconds. -/
def momentOfSeconds (x : Double) : Except TimestampFault Moment :=
  match x with
  | .nan _ => .error .notANumber
  | .infinite _ => .error .outOfRange
  | _ =>
    let (seconds, micros) := splitSeconds x
    if seconds < -secondsLimit || secondsLimit ≤ seconds then .error .outOfRange
    else momentOf seconds micros

/-- The text of a number of seconds as a date and time in universal time. -/
def timestampText (x : Double) : Except TimestampFault String := do
  let m ← momentOfSeconds x
  return m.isoText

end CodeCensus
