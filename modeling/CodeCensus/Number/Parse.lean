import CodeCensus.Number.Text
import CodeCensus.Text.Blank
import CodeCensus.Text.DecimalDigit
import CodeCensus.Text.Quoted

/-!
# Reading numbers

Integers and doubles from text, with blanks around them, a sign, single underscores between digits and
the decimal digits of every script.

Contents: `parseInteger?`, `notIntegerMessage`, `parseDouble?`, `notDoubleMessage`.
-/

namespace CodeCensus

/-- The plain form of a digit of any script. -/
def plainDigit (c : Char) : Char :=
  match Text.digitValue? c with
  | some n => Char.ofNat ('0'.toNat + n)
  | none => c

/-- The value of a digit, letters counting from ten. -/
def numeral? (c : Char) : Option Nat :=
  match Text.digitValue? c with
  | some n => some n
  | none =>
    if 'a' ≤ c ∧ c ≤ 'z' then some (c.toNat - 'a'.toNat + 10)
    else if 'A' ≤ c ∧ c ≤ 'Z' then some (c.toNat - 'A'.toNat + 10)
    else none

/-- The blanks that may stand around a number: all but the four information separators. -/
def isNumberBlank (c : Char) : Bool := Text.isBlank c && !(0x1c ≤ c.toNat && c.toNat ≤ 0x1f)

/-- The text of a number without the blanks around it. -/
def numberBody (text : String) : List Char := Text.trimWhere isNumberBlank text.toList

/-- A sign in front, and the rest. -/
def splitSign : List Char → Bool × List Char
  | '-' :: rest => (true, rest)
  | '+' :: rest => (false, rest)
  | cs => (false, cs)

/-- Digits of a base with single underscores between them, on top of the value `acc`; `ready` tells
    whether an underscore may follow. -/
def digitsFrom? (base : Nat) : List Char → (ready : Bool) → (acc : Nat) → Option Nat
  | [], ready, acc => if ready then some acc else none
  | c :: rest, ready, acc =>
    if c = '_' then (if ready then digitsFrom? base rest false acc else none)
    else
      match numeral? c with
      | some d => if d < base then digitsFrom? base rest true (acc * base + d) else none
      | none => none

/-- The letter that marks digits of a base. -/
def baseMark? (base : Nat) (c : Char) : Bool :=
  (base = 16 ∧ (c = 'x' ∨ c = 'X')) ∨ (base = 8 ∧ (c = 'o' ∨ c = 'O')) ∨
    (base = 2 ∧ (c = 'b' ∨ c = 'B'))

/-- Digits of a base, possibly after its mark. -/
def unsigned? (base : Nat) : List Char → Option Nat
  | '0' :: mark :: '_' :: rest =>
    if baseMark? base mark then digitsFrom? base rest false 0
    else digitsFrom? base ('0' :: mark :: '_' :: rest) false 0
  | '0' :: mark :: rest =>
    if baseMark? base mark then digitsFrom? base rest false 0
    else digitsFrom? base ('0' :: mark :: rest) false 0
  | cs => digitsFrom? base cs false 0

/-- The integer that a text writes in a base. -/
def parseInteger? (base : Nat) (text : String) : Option Int :=
  let (negative, digits) := splitSign ((numberBody text).map plainDigit)
  (unsigned? base digits).map fun n => if negative then -(n : Int) else n

/-- The message about a text that writes no integer in a base; of a long text only the front is shown. -/
def notIntegerMessage (base : Nat) (text : String) : String :=
  "invalid literal for int() with base " ++ natDigits base ++ ": " ++ Text.quotedFront 200 text

/-- Decimal digits with single underscores between them: their value, their number and the rest. -/
def takeDigits : List Char → (ready : Bool) → (value count : Nat) → Option (Nat × Nat × List Char)
  | '_' :: c :: rest, ready, value, count =>
    if ready ∧ (Text.digitValue? c).isSome then takeDigits (c :: rest) false value count else none
  | c :: rest, _, value, count =>
    match Text.digitValue? c with
    | some d => takeDigits rest true (10 * value + d) (count + 1)
    | none => if c = '_' then none else some (value, count, c :: rest)
  | [], _, value, count => some (value, count, [])

/-- The exponent part of a decimal; nothing may follow it. -/
def exponentPart? : List Char → Option Int
  | [] => some 0
  | e :: rest =>
    if e = 'e' ∨ e = 'E' then do
      let (negative, digits) := splitSign rest
      let (value, count, left) ← takeDigits digits false 0 0
      if count = 0 ∨ left ≠ [] then none
      else some (if negative then -(value : Int) else value)
    else none

/-- An unsigned decimal with a point or an exponent or neither. -/
def decimalPart? (negative : Bool) (cs : List Char) : Option Double := do
  let (whole, wholeCount, rest) ← takeDigits cs false 0 0
  match rest with
  | '.' :: more =>
    let (part, partCount, left) ← takeDigits more false whole 0
    if wholeCount = 0 ∧ partCount = 0 then none
    else
      let e ← exponentPart? left
      some (.ofDecimal negative part (e - partCount))
  | left =>
    if wholeCount = 0 then none
    else
      let e ← exponentPart? left
      some (.ofDecimal negative whole e)

/-- The double that a text writes. -/
def parseDouble? (text : String) : Option Double :=
  let (negative, body) := splitSign (numberBody text)
  let word := String.ofList (body.map Char.toLower)
  if word = "inf" ∨ word = "infinity" then some (.infinite negative)
  else if word = "nan" then some (.nan 0)
  else decimalPart? negative body

/-- The message about a text that writes no double. -/
def notDoubleMessage (text : String) : String :=
  "could not convert string to float: " ++ Text.quoted text

end CodeCensus
