import CodeCensus.Number.Parse
import CodeCensus.Text.LowerCase
import CodeCensus.Yaml.Tag

/-!
# Values of scalars

The value that the text of a scalar writes, by its tag.

Contents: `integerValue`, `floatValue`, `truthValue`, `timestampValue`, `binaryValue`, `scalarValue?`.
-/

namespace CodeCensus
namespace Yaml

/-! ## Numbers -/

/-- A text without underscores. -/
def withoutMarks (text : String) : List Char := text.toList.filter (· ≠ '_')

/-- The integer that digits of a base write. -/
def readInteger (base : Nat) (cs : List Char) : Except Fault Int :=
  match parseInteger? base (String.ofList cs) with
  | none => .error (.badInteger base (String.ofList cs))
  | some n => .ok n

/-- The number whose digits in base sixty are given. -/
def inSixties (digits : List Int) : Int := digits.foldl (fun n d => 60 * n + d) 0

/-- An integer after its sign. -/
def unsignedValue (cs : List Char) : Except Fault Int :=
  match cs with
  | [] => .error .emptyNumber
  | '0' :: 'b' :: rest => readInteger 2 rest
  | '0' :: 'x' :: rest => readInteger 16 rest
  | '0' :: _ => readInteger 8 cs
  | _ =>
    if cs.contains ':' then do
      let digits ← (splitAtMarks ':' cs).mapM (readInteger 10)
      return inSixties digits
    else readInteger 10 cs

/-- The value of an integer: binary after `0b`, hexadecimal after `0x`, octal after `0`, in base sixty
    with colons, decimal otherwise. -/
def integerValue (text : String) : Except Fault Value :=
  match withoutMarks text with
  | [] => .error .emptyNumber
  | '-' :: rest => do
    let n ← unsignedValue rest
    return .int (-n)
  | '+' :: rest => do
    let n ← unsignedValue rest
    return .int n
  | cs => do
    let n ← unsignedValue cs
    return .int n

/-- The double that a text writes. -/
def readFloat (cs : List Char) : Except Fault Double :=
  match parseDouble? (String.ofList cs) with
  | none => .error (.badFloat (String.ofList cs))
  | some x => .ok x

/-- The sum of digits times the powers of sixty from `power` on, added to `sum`; the digits come from the
    last one on. A power beyond the largest double cannot be used. -/
def sumInSixties (sum : Double) (power : Int) : List Double → Except Fault Double
  | [] => .ok sum
  | d :: rest =>
    match Double.ofInt? power with
    | some factor => sumInSixties (sum + d * factor) (60 * power) rest
    | none => .error .intTooLarge

/-- The double whose digits in base sixty are given. -/
def floatInSixties (digits : List Double) : Except Fault Double :=
  sumInSixties (Double.ofInt 0) 1 digits.reverse

/-- The mark of every NaN that is written as such. -/
def sharedNan : Nat := 1

/-- A float after its sign. -/
def unsignedFloat (cs : List Char) : Except Fault Double :=
  if cs = ".inf".toList then .ok (.infinite false)
  else if cs = ".nan".toList then .ok (.nan sharedNan)
  else if cs.contains ':' then do
    let digits ← (splitAtMarks ':' cs).mapM readFloat
    floatInSixties digits
  else readFloat cs

/-- The value of a float. -/
def floatValue (text : String) : Except Fault Value :=
  match Text.lowerChars (withoutMarks text) with
  | [] => .error .emptyNumber
  | '-' :: rest => do
    let x ← unsignedFloat rest
    return .float (-x)
  | '+' :: rest => do
    let x ← unsignedFloat rest
    return .float x
  | cs => do
    let x ← unsignedFloat cs
    return .float x

/-! ## Truth values, timestamps and bytes -/

/-- The value of a truth word. -/
def truthValue (text : String) : Except Fault Value :=
  let word := Text.lower text
  if ["yes", "true", "on"].contains word then .ok (.bool true)
  else if ["no", "false", "off"].contains word then .ok (.bool false)
  else .error (.badTruth word)

/-- The date, if there is such a day. -/
def checkedDate (year month day : Nat) : Except Fault Date :=
  if year < 1 then .error (.badDate ("year " ++ natDigits year ++ " is out of range"))
  else if month < 1 ∨ 12 < month then .error (.badDate "month must be in 1..12")
  else if day < 1 ∨ daysInMonth year month < day then .error (.badDate "day is out of range for month")
  else .ok ⟨year, month, day⟩

/-- The time of day, if there is such a time. -/
def checkedTime (hour minute second microsecond : Nat) : Except Fault TimeOfDay :=
  if 23 < hour then .error (.badDate "hour must be in 0..23")
  else if 59 < minute then .error (.badDate "minute must be in 0..59")
  else if 59 < second then .error (.badDate "second must be in 0..59")
  else .ok ⟨hour, minute, second, microsecond⟩

/-- The microseconds of the digits of a fraction; digits after the sixth are dropped. -/
def microseconds (fraction : List Char) : Nat :=
  let digits := fraction.take 6
  digitsNumber (digits ++ List.replicate (6 - digits.length) '0')

/-- The value of a timestamp: a date, or a moment when it has a time of day. -/
def timestampValue (text : String) : Except Fault Value :=
  match readTimestamp? (withoutLastBreak text.toList) with
  | none => .error .notTimestamp
  | some t =>
    match t.clock with
    | none => do
      let d ← checkedDate t.year t.month t.day
      return .date d
    | some (hour, minute, second, fraction) => do
      let offset := t.zone.map (60 * ·)
      match offset with
      | some seconds => if 86400 ≤ seconds.natAbs then throw (.badOffset seconds)
      | none => pure ()
      let d ← checkedDate t.year t.month t.day
      let time ← checkedTime hour minute second (microseconds fraction)
      return .moment ⟨d, time, offset⟩

/-- The six bits of a letter of the transfer alphabet. -/
def sixBits? (c : Char) : Option Nat :=
  if 'A' ≤ c ∧ c ≤ 'Z' then some (c.toNat - 'A'.toNat)
  else if 'a' ≤ c ∧ c ≤ 'z' then some (c.toNat - 'a'.toNat + 26)
  else if '0' ≤ c ∧ c ≤ '9' then some (c.toNat - '0'.toNat + 52)
  else if c = '+' then some 62
  else if c = '/' then some 63
  else none

/-- Bytes from letters of six bits; `filled` counts the letters of the current group of four, `kept` holds
    the bits that make no byte yet, `pads` the padding marks in a row. Other characters are skipped. -/
def sixBitBytes (done : List UInt8) (filled kept pads : Nat) : List Char → Option (List UInt8)
  | [] => if filled = 0 then some done.reverse else none
  | c :: rest =>
    if c = '=' then
      if 2 ≤ filled ∧ 4 ≤ filled + (pads + 1) then some done.reverse
      else sixBitBytes done filled kept (if 2 ≤ filled then pads + 1 else pads) rest
    else
      match sixBits? c with
      | none => sixBitBytes done filled kept pads rest
      | some n =>
        if filled = 0 then sixBitBytes done 1 n 0 rest
        else if filled = 1 then sixBitBytes (UInt8.ofNat (4 * kept + n / 16) :: done) 2 (n % 16) 0 rest
        else if filled = 2 then sixBitBytes (UInt8.ofNat (16 * kept + n / 4) :: done) 3 (n % 4) 0 rest
        else sixBitBytes (UInt8.ofNat (64 * kept + n) :: done) 0 0 0 rest

/-- The value of binary data. -/
def binaryValue (text : String) : Except Fault Value :=
  let cs := text.toList
  if cs.all fun c => c.toNat < 0x80 then
    match sixBitBytes [] 0 0 0 cs with
    | some content => .ok (.bytes content)
    | none => .error .malformed
  else .error .malformed

/-! ## By tag -/

/-- The value of a scalar, when its tag is one of a scalar. -/
def scalarValue? (tag text : String) : Option (Except Fault Value) :=
  if tag = coreTag "str" then some (.ok (.text text))
  else if tag = coreTag "null" then some (.ok .null)
  else if tag = coreTag "bool" then some (truthValue text)
  else if tag = coreTag "int" then some (integerValue text)
  else if tag = coreTag "float" then some (floatValue text)
  else if tag = coreTag "timestamp" then some (timestampValue text)
  else if tag = coreTag "binary" then some (binaryValue text)
  else none

end Yaml
end CodeCensus
