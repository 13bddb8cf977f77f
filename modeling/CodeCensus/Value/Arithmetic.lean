import CodeCensus.Number.Basic
import CodeCensus.Number.Parse

/-!
# Arithmetic on values

Numbers taken from loosely typed values. Truth values count as 0 and 1; what is no number is refused with
the kind of the value.

Contents: `ArithmeticFault`, `Value.number?`, `Value.toDouble`, `Value.timeLimit?`, `Value.percentage`.
-/

namespace CodeCensus

/-- Why values cannot be computed with. -/
inductive ArithmeticFault where
  | number (fault : NumberFault)
  | notDivisible (left right : String)
  | notDuration (kind : String)
  | notInteger (kind : String)
  | notReal (kind : String)
  | badText (text : String)
  deriving DecidableEq, Repr

/-- The wording of a fault. -/
def ArithmeticFault.message : ArithmeticFault → String
  | number fault => fault.message
  | notDivisible left right =>
    "unsupported operand type(s) for /: '" ++ left ++ "' and '" ++ right ++ "'"
  | notDuration kind => "unsupported operand type(s) for +: 'float' and '" ++ kind ++ "'"
  | notInteger kind => "'" ++ kind ++ "' object cannot be interpreted as an integer"
  | notReal kind => "float() argument must be a string or a real number, not '" ++ kind ++ "'"
  | badText text => notDoubleMessage text

namespace Value

/-- The number that a value is. -/
def number? : Value → Option Number
  | int n => some (.int n)
  | float x => some (.double x)
  | bool b => some (.int (if b then 1 else 0))
  | _ => none

/-- The double that a value is, or writes. -/
def toDouble (v : Value) : Except ArithmeticFault Double :=
  match v with
  | text s =>
    match parseDouble? s with
    | some x => .ok x
    | none => .error (.badText s)
  | _ =>
    match v.number? with
    | some n => n.toDouble.mapError .number
    | none => .error (.notReal v.fullTypeName)

/-- The time limit that a value sets, if any: it has to be a number that can be added to a time. -/
def timeLimit? (v : Value) : Except ArithmeticFault (Option Number) :=
  match v with
  | null => .ok none
  | _ =>
    match v.number? with
    | some n => .ok (some n)
    | none => .error (.notDuration v.fullTypeName)

/-- A double rounded to decimal places, or to an integer where no places are given. -/
def roundTo (x : Double) (places : Value) : Except ArithmeticFault Value :=
  match places with
  | null => ((nearestInt x).map int).mapError .number
  | _ =>
    match places.number? with
    | some (.int n) => ((roundedTo x n).map float).mapError .number
    | _ => .error (.notInteger places.fullTypeName)

/-- `part / total * 100`, rounded; the integer zero when `total` is zero. -/
def percentage (part total places : Value) : Except ArithmeticFault Value :=
  match part.number?, total.number? with
  | p, some t =>
    if t.isZero then .ok (int 0)
    else
      match p with
      | some p => do
        let ratio ← (p.quotient t).mapError .number
        roundTo (ratio * Double.ofInt 100) places
      | none => .error (.notDivisible part.fullTypeName total.fullTypeName)
  | _, none => .error (.notDivisible part.fullTypeName total.fullTypeName)

end Value
end CodeCensus
