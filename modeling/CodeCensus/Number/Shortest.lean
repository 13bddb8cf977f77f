import CodeCensus.Number.Double

/-!
# Shortest decimal of a double

The decimal with the fewest digits that still rounds to the given double, and of those the nearest to
it. For one digit, two digits, and so on, the two neighbours of the value on the decimal grid are
tested against the interval of reals that round to the double; seventeen digits always suffice.

Contents: `Decimal`, `Decimal.shortest`.
-/

namespace CodeCensus

/-- The decimal number `digits * 10 ^ exponent`. -/
structure Decimal where
  digits : Nat
  exponent : Int
  deriving DecidableEq, Repr

namespace Decimal

/-- The fraction `num / den` divided by `10 ^ k`. -/
def scaleDownTen (num den : Nat) (k : Int) : Nat × Nat :=
  if 0 ≤ k then (num, den * Nat.pow 10 k.toNat) else (num * Nat.pow 10 (-k).toNat, den)

/-- The floor of the decimal logarithm of `num / den`, for positive `num` and `den`. -/
def ratioLog10 (num den : Nat) : Int :=
  let guess : Int := Int.fdiv (ratioLog2 num den * 30103) 100000
  let atLeast (k : Int) : Bool :=
    let scaled := scaleDownTen num den k
    scaled.2 ≤ scaled.1
  if atLeast (guess + 1) then guess + 1
  else if atLeast guess then guess
  else guess - 1

/-- The reals that round to `mantissa * 2 ^ exponent`, in quarters of `2 ^ exponent`: lower end, upper
    end. Below a power of two the gap is half as wide. -/
def quarterBounds (mantissa : Nat) (exponent : Int) : Nat × Nat :=
  let lower := if mantissa = Double.leastNormal ∧ Double.minExponent < exponent then 1 else 2
  (4 * mantissa - lower, 4 * mantissa + 2)

/-- `n * 10 ^ k` lies in the interval of reals that round to `mantissa * 2 ^ exponent`; the ends
    belong to it when the mantissa is even. -/
def roundsTo (mantissa : Nat) (exponent : Int) (n : Nat) (k : Int) : Bool :=
  let bounds := quarterBounds mantissa exponent
  let tens := scaleDownTen n 1 (-k)
  let quarters := scaleDown tens.1 tens.2 (exponent - 2)
  let low := bounds.1 * quarters.2
  let high := bounds.2 * quarters.2
  if mantissa % 2 = 0 then low ≤ quarters.1 && quarters.1 ≤ high
  else low < quarters.1 && quarters.1 < high

/-- The neighbour on the grid `10 ^ k` that rounds to the double, if there is one; of two, the
    nearer. -/
def onGrid? (mantissa : Nat) (exponent : Int) (k : Int) : Option Nat :=
  let value := Double.magnitude mantissa exponent
  let scaled := scaleDownTen value.1 value.2 k
  let below := scaled.1 / scaled.2
  let near := roundDiv scaled.1 scaled.2
  let far := if near = below then below + 1 else below
  if roundsTo mantissa exponent near k then some near
  else if roundsTo mantissa exponent far k then some far
  else none

/-- Tries the grids of `count`, `count + 1`, ... significant digits, at most `fuel` of them. -/
def searchGrid (mantissa : Nat) (exponent : Int) (log : Int) : Nat → Int → Decimal
  | 0, _ => ⟨mantissa, 0⟩
  | fuel + 1, count =>
    let k := log - count + 1
    match onGrid? mantissa exponent k with
    | some n => ⟨n, k⟩
    | none => searchGrid mantissa exponent log fuel (count + 1)

/-- Drops trailing zeros from the digits, at most `fuel` of them. -/
def stripZeros : Nat → Decimal → Decimal
  | 0, d => d
  | fuel + 1, d =>
    if d.digits ≠ 0 ∧ d.digits % 10 = 0 then stripZeros fuel ⟨d.digits / 10, d.exponent + 1⟩ else d

/-- The shortest decimal that rounds to `mantissa * 2 ^ exponent`. -/
def shortest (mantissa : Nat) (exponent : Int) : Decimal :=
  if mantissa = 0 then ⟨0, 0⟩
  else
    let value := Double.magnitude mantissa exponent
    stripZeros 20 (searchGrid mantissa exponent (ratioLog10 value.1 value.2) 18 1)

end Decimal
end CodeCensus
