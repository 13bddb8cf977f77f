import CodeCensus.Value.Basic

/-!
# Numbers

A number is an integer of any size or a double, and keeps its kind: an integer threshold stays an
integer in every report. Comparison is exact across the two kinds.

Contents: `Number`, `Number.compare?`, `NumberFault`, `Number.toDouble`, `Number.quotient`, `nearestInt`, `roundedTo`,
`percentage`.
-/

namespace CodeCensus

/-- An integer or a double. -/
inductive Number where
  | int (n : Int)
  | double (x : Double)
  deriving DecidableEq, Repr, Inhabited

/-- Why an arithmetic operation has no result. -/
inductive NumberFault where
  | intTooLarge
  | quotientTooLarge
  | roundedTooLarge
  | infiniteAsInt
  | nanAsInt
  deriving DecidableEq, Repr

/-- The wording of a fault. -/
def NumberFault.message : NumberFault → String
  | intTooLarge => "int too large to convert to float"
  | quotientTooLarge => "integer division result too large for a float"
  | roundedTooLarge => "rounded value too large to represent"
  | infiniteAsInt => "cannot convert float infinity to integer"
  | nanAsInt => "cannot convert float NaN to integer"

namespace Number

/-- The number as a value. -/
def toValue : Number → Value
  | int n => .int n
  | double x => .float x

/-- The text of a number. -/
def text : Number → String
  | int n => intText n
  | double x => x.text

/-- Exact comparison; a NaN compares with nothing. -/
def compare? : Number → Number → Option Ordering
  | int m, int n => some (compare m n)
  | int m, double y => (y.compareInt? m).map Ordering.swap
  | double x, int n => x.compareInt? n
  | double x, double y => x.compare? y

/-- `a < b`, false when either is a NaN. -/
def lt (a b : Number) : Bool := a.compare? b == some .lt

/-- `a ≤ b`, false when either is a NaN. -/
def le (a b : Number) : Bool :=
  match a.compare? b with
  | some .lt | some .eq => true
  | _ => false

/-- The number as a double; integers beyond the largest double have none. -/
def toDouble : Number → Except NumberFault Double
  | int n =>
    match Double.ofInt? n with
    | some x => .ok x
    | none => .error .intTooLarge
  | double x => .ok x

/-- The number is zero. -/
def isZero (a : Number) : Bool := a.compare? (int 0) == some .eq

/-- The quotient of two numbers as a double. Two integers are divided exactly and rounded once. -/
def quotient : Number → Number → Except NumberFault Double
  | int m, int n =>
    match Double.ofIntRatio m n with
    | .infinite _ => .error .quotientTooLarge
    | x => .ok x
  | a, b => do
    let x ← a.toDouble
    let y ← b.toDouble
    return x / y

end Number

/-- The nearest integer to a double, ties to even. -/
def nearestInt (x : Double) : Except NumberFault Int :=
  match x with
  | .nan _ => .error .nanAsInt
  | .infinite _ => .error .infiniteAsInt
  | x => .ok x.roundInt

/-- Rounds to decimal places; a finite number has to stay finite. -/
def roundedTo (x : Double) (places : Int) : Except NumberFault Double :=
  let y := x.roundPlaces places
  if x.isFinite && !y.isFinite then .error .roundedTooLarge else .ok y

/-- `part / total * 100`, rounded to `places` decimal places; the integer zero when `total` is zero. -/
def percentage (part total : Number) (places : Int) : Except NumberFault Number :=
  if total.isZero then .ok (.int 0)
  else do
    let ratio ← part.quotient total
    let rounded ← roundedTo (ratio * Double.ofInt 100) places
    return .double rounded

/-- The percentage of two integers, to two decimal places. -/
def countPercentage (part total : Int) : Number :=
  if total = 0 then .int 0
  else .double ((Double.ofIntRatio part total * Double.ofInt 100).roundPlaces 2)

end CodeCensus
