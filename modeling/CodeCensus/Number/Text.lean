import CodeCensus.Number.Shortest

/-!
# Number texts

How numbers are written in reports and messages: integers in decimal, doubles by their shortest digits
(positional from `0.0001` up to sixteen integer digits, with an exponent outside), doubles with a fixed
number of places, and integers with thousands separators.

Contents: `natDigits`, `intText`, `Double.text`, `Double.fixedText`, `groupedText`.
-/

namespace CodeCensus

/-- The decimal digits of a natural number. -/
def natDigits (n : Nat) : String := String.ofList (Nat.toDigits 10 n)

/-- The decimal text of an integer. -/
def intText (n : Int) : String :=
  if n < 0 then "-" ++ natDigits n.natAbs else natDigits n.natAbs

/-- The digits split into groups of three from the right, joined by commas; `digits` comes reversed. -/
def groupThrees : List Char → List Char
  | a :: b :: c :: d :: rest => a :: b :: c :: ',' :: groupThrees (d :: rest)
  | short => short

/-- An integer with a comma between groups of three digits. -/
def groupedText (n : Int) : String :=
  let grouped := String.ofList (groupThrees (Nat.toDigits 10 n.natAbs).reverse).reverse
  if n < 0 then "-" ++ grouped else grouped

namespace Double

/-- Where positional notation ends and how exponents are written. -/
structure TextFormat where
  /-- Smallest decimal exponent written positionally. -/
  lowest : Int
  /-- Decimal exponents from here on are written with an exponent. -/
  highest : Int
  /-- Least number of exponent digits. -/
  exponentWidth : Nat

/-- The format of doubles in reports and messages. -/
def reportFormat : TextFormat := ⟨-4, 16, 2⟩

/-- `width` zeros. -/
def zeros (width : Nat) : String := String.ofList (List.replicate width '0')

/-- The digits with a point after the first `point` of them, filled with zeros on either side. -/
def placePoint (digits : String) (point : Int) : String :=
  let ds := digits.toList
  if point ≤ 0 then "0." ++ zeros (-point).toNat ++ digits
  else
    let k := point.toNat
    if ds.length ≤ k then digits ++ zeros (k - ds.length) ++ ".0"
    else String.ofList (ds.take k) ++ "." ++ String.ofList (ds.drop k)

/-- The digits in exponent notation. -/
def placeExponent (format : TextFormat) (digits : String) (exponent : Int) : String :=
  let ds := digits.toList
  let lead := String.ofList (ds.take 1)
  let rest := String.ofList (ds.drop 1)
  let power := natDigits exponent.natAbs
  lead ++ (if rest = "" then "" else "." ++ rest) ++ "e" ++ (if exponent < 0 then "-" else "+")
    ++ zeros (format.exponentWidth - power.length) ++ power

/-- The text of a finite magnitude. -/
def magnitudeText (format : TextFormat) (mantissa : Nat) (exponent : Int) : String :=
  if mantissa = 0 then "0.0"
  else
    let d := Decimal.shortest mantissa exponent
    let digits := natDigits d.digits
    let top := d.exponent + (digits.length : Int) - 1
    if format.lowest ≤ top ∧ top < format.highest then placePoint digits (top + 1)
    else placeExponent format digits top

/-- The shortest text that reads back as the same double. -/
def text : Double → String
  | nan _ => "nan"
  | infinite s => if s then "-inf" else "inf"
  | finite s m e => (if s then "-" else "") ++ magnitudeText reportFormat m e

/-- The text with exactly `places` digits after the point. -/
def fixedText (places : Nat) : Double → String
  | nan _ => "nan"
  | infinite s => if s then "-inf" else "inf"
  | finite s m e =>
    let units := decimalUnits m e places
    let digits := natDigits units
    let padded := zeros (places + 1 - digits.length) ++ digits
    let ds := padded.toList
    let whole := String.ofList (ds.take (ds.length - places))
    let part := String.ofList (ds.drop (ds.length - places))
    (if s then "-" else "") ++ whole ++ (if places = 0 then "" else "." ++ part)

end Double
end CodeCensus
