/-!
# Binary floating point numbers

Doubles as exact data: a finite double is `mantissa * 2 ^ exponent` with at most 53 bits of mantissa.
Every operation takes the exact rational result and rounds it once, to nearest with ties to even, so
each law about doubles is a law about `Double.ofRatio`.

Contents:
* `roundDiv` — a quotient of naturals to the nearest natural, ties to even;
* `Double`, `Double.ofRatio` — the type and its one rounding function;
* exact comparison (`Double.compare?`) and the arithmetic `+`, `-`, `*`, `/`;
* `Double.roundPlaces` — rounding to decimal places on the exact value.
-/

namespace CodeCensus

/-- The quotient `num / den` rounded to the nearest natural, a half going to the even neighbour. -/
def roundDiv (num den : Nat) : Nat :=
  let q := num / den
  let r := num % den
  if 2 * r < den then q
  else if den < 2 * r then q + 1
  else q + q % 2

/-- The fraction `num / den` divided by `2 ^ e`. -/
def scaleDown (num den : Nat) (e : Int) : Nat × Nat :=
  if 0 ≤ e then (num, den * Nat.pow 2 e.toNat) else (num * Nat.pow 2 (-e).toNat, den)

/-- The floor of the base-two logarithm of `num / den`, for positive `num` and `den`. -/
def ratioLog2 (num den : Nat) : Int :=
  let guess : Int := (num.log2 : Int) - den.log2
  let scaled := scaleDown num den guess
  if scaled.2 ≤ scaled.1 then guess else guess - 1

/-- A double-precision binary floating point number. A NaN carries a mark: NaNs with one mark are copies of
    each other, unless the mark is zero. -/
inductive Double where
  | nan (mark : Nat)
  | infinite (negative : Bool)
  | finite (negative : Bool) (mantissa : Nat) (exponent : Int)
  deriving DecidableEq, Repr, Inhabited

namespace Double

/-- The exponent of the smallest positive double. -/
def minExponent : Int := -1074

/-- The largest exponent of a finite double. -/
def maxExponent : Int := 971

/-- The least mantissa of a double with all its bits: two to the power 52. -/
def leastNormal : Nat := 4503599627370496

/-- Zero with the given sign. -/
def signedZero (negative : Bool) : Double := finite negative 0 minExponent

/-- Positive zero. -/
def zero : Double := signedZero false

/-! ## Rounding -/

/-- The exponent of the grid on which `num / den` is rounded. -/
def gridExponent (num den : Nat) : Int := max (ratioLog2 num den - 52) minExponent

/-- The double nearest to the fraction `num / den` with the given sign, ties to the even mantissa.
    Fractions beyond the largest double become infinite. -/
def ofRatio (negative : Bool) (num den : Nat) : Double :=
  if num = 0 then signedZero negative
  else
    let e := gridExponent num den
    let scaled := scaleDown num den e
    let m := roundDiv scaled.1 scaled.2
    let carried := m = 2 * leastNormal
    let mantissa := if carried then leastNormal else m
    let exponent := if carried then e + 1 else e
    if maxExponent < exponent then infinite negative else finite negative mantissa exponent

/-- The exact magnitude `mantissa * 2 ^ exponent` as a fraction. -/
def magnitude (mantissa : Nat) (exponent : Int) : Nat × Nat :=
  if 0 ≤ exponent then (mantissa * Nat.pow 2 exponent.toNat, 1)
  else (mantissa, Nat.pow 2 (-exponent).toNat)

/-- The double nearest to `± mantissa * 2 ^ exponent`. -/
def ofScaled (negative : Bool) (mantissa : Nat) (exponent : Int) : Double :=
  let m := magnitude mantissa exponent
  ofRatio negative m.1 m.2

/-- The double nearest to an integer; infinite when the integer is beyond the largest double. -/
def ofInt (n : Int) : Double := ofRatio (n < 0) n.natAbs 1

/-- The double nearest to an integer, if that is finite. -/
def ofInt? (n : Int) : Option Double :=
  match ofInt n with
  | finite s m e => some (finite s m e)
  | _ => none

/-- The double nearest to the quotient of two integers. -/
def ofIntRatio (num den : Int) : Double :=
  ofRatio ((num < 0) != (den < 0)) num.natAbs den.natAbs

/-- The double nearest to `± digits * 10 ^ exponent`. -/
def ofDecimal (negative : Bool) (digits : Nat) (exponent : Int) : Double :=
  let size := exponent + (digits.log2 : Int)
  if digits = 0 then signedZero negative
  else if 0 ≤ exponent then
    if 2000 < exponent then infinite negative
    else ofRatio negative (digits * Nat.pow 10 exponent.toNat) 1
  else if size < -2000 then signedZero negative
  else ofRatio negative digits (Nat.pow 10 (-exponent).toNat)

/-! ## Views -/

/-- Whether this is the value that is no number. -/
def isNan : Double → Bool
  | nan _ => true
  | _ => false

/-- Whether this is neither infinite nor a NaN. -/
def isFinite : Double → Bool
  | finite .. => true
  | _ => false

/-- The value as a signed mantissa over a common power of two. -/
def signedMantissa (negative : Bool) (mantissa : Nat) : Int :=
  if negative then -(mantissa : Int) else mantissa

/-- `mantissa * 2 ^ (exponent - base)` for a `base` at most `exponent`. -/
def alignTo (base : Int) (negative : Bool) (mantissa : Nat) (exponent : Int) : Int :=
  signedMantissa negative (mantissa * Nat.pow 2 (exponent - base).toNat)

/-! ## Comparison -/

/-- Exact comparison of two finite doubles. -/
def compareFinite (s₁ : Bool) (m₁ : Nat) (e₁ : Int) (s₂ : Bool) (m₂ : Nat) (e₂ : Int) : Ordering :=
  let base := min e₁ e₂
  compare (alignTo base s₁ m₁ e₁) (alignTo base s₂ m₂ e₂)

/-- Exact comparison; a NaN compares with nothing. -/
def compare? : Double → Double → Option Ordering
  | nan _, _ => none
  | _, nan _ => none
  | infinite s, infinite t =>
    some (if s = t then .eq else if s then .lt else .gt)
  | infinite s, finite .. => some (if s then .lt else .gt)
  | finite .., infinite t => some (if t then .gt else .lt)
  | finite s₁ m₁ e₁, finite s₂ m₂ e₂ => some (compareFinite s₁ m₁ e₁ s₂ m₂ e₂)

/-- `x < y`, false when either is a NaN. -/
def lt (x y : Double) : Bool := x.compare? y == some .lt

/-- `x ≤ y`, false when either is a NaN. -/
def le (x y : Double) : Bool :=
  match x.compare? y with
  | some .lt | some .eq => true
  | _ => false

/-- Exact comparison of a double with an integer. -/
def compareInt? (x : Double) (n : Int) : Option Ordering :=
  match x with
  | nan _ => none
  | infinite s => some (if s then .lt else .gt)
  | finite s m e =>
    let base := min e 0
    some (compare (alignTo base s m e) (n * Nat.pow 2 (-base).toNat))

/-! ## Arithmetic -/

/-- The opposite number. -/
def neg : Double → Double
  | nan mark => nan mark
  | infinite s => infinite (!s)
  | finite s m e => finite (!s) m e

/-- The sum of two finite doubles, rounded once. -/
def addFinite (s₁ : Bool) (m₁ : Nat) (e₁ : Int) (s₂ : Bool) (m₂ : Nat) (e₂ : Int) : Double :=
  let base := min e₁ e₂
  let total := alignTo base s₁ m₁ e₁ + alignTo base s₂ m₂ e₂
  if total = 0 then signedZero (s₁ && s₂)
  else ofScaled (total < 0) total.natAbs base

/-- The sum, rounded once; opposite infinite numbers give a NaN. -/
def add : Double → Double → Double
  | nan _, _ => nan 0
  | _, nan _ => nan 0
  | infinite s, infinite t => if s = t then infinite s else nan 0
  | infinite s, finite .. => infinite s
  | finite .., infinite t => infinite t
  | finite s₁ m₁ e₁, finite s₂ m₂ e₂ => addFinite s₁ m₁ e₁ s₂ m₂ e₂

/-- The difference: the sum with the opposite number. -/
def sub (x y : Double) : Double := x.add y.neg

/-- The product, rounded once; zero times an infinite number is a NaN. -/
def mul : Double → Double → Double
  | nan _, _ => nan 0
  | _, nan _ => nan 0
  | infinite s, infinite t => infinite (s != t)
  | infinite s, finite t m _ => if m = 0 then nan 0 else infinite (s != t)
  | finite s m _, infinite t => if m = 0 then nan 0 else infinite (s != t)
  | finite s₁ m₁ e₁, finite s₂ m₂ e₂ => ofScaled (s₁ != s₂) (m₁ * m₂) (e₁ + e₂)

/-- The quotient, rounded once; a zero divisor gives an infinite number or a NaN. -/
def div : Double → Double → Double
  | nan _, _ => nan 0
  | _, nan _ => nan 0
  | infinite _, infinite _ => nan 0
  | infinite s, finite t _ _ => infinite (s != t)
  | finite s _ _, infinite t => signedZero (s != t)
  | finite s₁ m₁ e₁, finite s₂ m₂ e₂ =>
    if m₂ = 0 then (if m₁ = 0 then nan 0 else infinite (s₁ != s₂))
    else
      let scaled := scaleDown m₁ m₂ (e₂ - e₁)
      ofRatio (s₁ != s₂) scaled.1 scaled.2

instance : Neg Double := ⟨neg⟩
instance : Add Double := ⟨add⟩
instance : Sub Double := ⟨sub⟩
instance : Mul Double := ⟨mul⟩
instance : Div Double := ⟨div⟩

/-! ## Rounding to decimal places and to integers -/

/-- The magnitude of a finite double times `10 ^ places`, as a fraction. -/
def scaledByTen (mantissa : Nat) (exponent : Int) (places : Int) : Nat × Nat :=
  let m := magnitude mantissa exponent
  if 0 ≤ places then (m.1 * Nat.pow 10 places.toNat, m.2)
  else (m.1, m.2 * Nat.pow 10 (-places).toNat)

/-- The exact value rounded to `places` decimal places, ties to even, as a multiple of
    `10 ^ -places`. -/
def decimalUnits (mantissa : Nat) (exponent : Int) (places : Int) : Nat :=
  let m := scaledByTen mantissa exponent places
  roundDiv m.1 m.2

/-- The double nearest to the exact value rounded to `places` decimal places. -/
def roundPlaces (x : Double) (places : Int) : Double :=
  match x with
  | finite s m e =>
    if 330 < places then x
    else if places < -330 then signedZero s
    else ofDecimal s (decimalUnits m e places) (-places)
  | other => other

/-- The nearest integer, ties to even; zero when the number is not finite. -/
def roundInt : Double → Int
  | finite s m e => signedMantissa s (decimalUnits m e 0)
  | _ => 0

/-- The integer part, toward zero; `none` when the number is not finite. -/
def truncate? : Double → Option Int
  | finite s m e =>
    let q := magnitude m e
    some (signedMantissa s (q.1 / q.2))
  | _ => none

end Double
end CodeCensus
