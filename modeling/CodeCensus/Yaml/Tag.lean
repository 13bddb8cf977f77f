import CodeCensus.Yaml.Fault

/-!
# Kinds of scalars

Every node of a document has a tag. An untagged plain scalar gets the tag of the first form that its text
has: truth value, float, integer, merge key, nothing, timestamp or default value; any other is text.

Contents:
* the tags of the core schema;
* the forms: `truthWords`, `nullWords`, `isFloatForm`, `isIntegerForm`, `isTimestampForm`;
* `resolveTag`.
-/

namespace CodeCensus
namespace Yaml

/-- The tag of the core schema with a given name. -/
def coreTag (name : String) : String := "tag:yaml.org,2002:" ++ name

/-! ## Pieces of forms -/

/-- A decimal digit. -/
def isDigit (c : Char) : Bool := '0' ≤ c && c ≤ '9'

/-- A decimal digit or an underscore. -/
def isDigitOrMark (c : Char) : Bool := isDigit c || c = '_'

/-- The text after an optional sign. -/
def unsign : List Char → List Char
  | '+' :: rest => rest
  | '-' :: rest => rest
  | cs => cs

/-- A digit and then digits and underscores. -/
def isDigitRun : List Char → Bool
  | [] => false
  | c :: rest => isDigit c && rest.all isDigitOrMark

/-- The parts of a text between the marks. -/
def splitAtMarks (mark : Char) (cs : List Char) : List (List Char) :=
  let (part, later) := cs.foldr
    (fun c (part, later) => if c = mark then ([], part :: later) else (c :: part, later)) ([], [])
  part :: later

/-- Minutes or seconds: one digit, or two below sixty. -/
def isSixtieth : List Char → Bool
  | [c] => isDigit c
  | [d, c] => '0' ≤ d && d ≤ '5' && isDigit c
  | _ => false

/-! ## Forms -/

/-- The words that write a truth value. -/
def truthWords : List String :=
  ["yes", "Yes", "YES", "no", "No", "NO", "true", "True", "TRUE", "false", "False", "FALSE",
    "on", "On", "ON", "off", "Off", "OFF"]

/-- The words that write nothing; so does the empty text. -/
def nullWords : List String := ["~", "null", "Null", "NULL"]

/-- An exponent with its sign, or no exponent. -/
def isExponent : List Char → Bool
  | [] => true
  | e :: sign :: digits =>
    (e = 'e' || e = 'E') && (sign = '+' || sign = '-') && !digits.isEmpty && digits.all isDigit
  | _ => false

/-- What follows the point of a float. -/
def isFraction (cs : List Char) : Bool := isExponent (cs.dropWhile isDigitOrMark)

/-- Digits, a point and a fraction, or digits in base sixty with a point. -/
def isPointed (cs : List Char) : Bool :=
  match splitAtMarks '.' cs with
  | [whole, part] =>
    match splitAtMarks ':' whole with
    | [digits] => isDigitRun digits && isFraction part
    | first :: others => isDigitRun first && others.all isSixtieth && part.all isDigitOrMark
    | [] => false
  | _ => false

/-- The text of a float. -/
def isFloatForm (cs : List Char) : Bool :=
  isPointed (unsign cs) ||
    (match cs with
      | '.' :: c :: rest => isDigit c && isFraction rest
      | _ => false) ||
    [".inf".toList, ".Inf".toList, ".INF".toList].contains (unsign cs) ||
    [".nan".toList, ".NaN".toList, ".NAN".toList].contains cs

/-- A hexadecimal digit or an underscore. -/
def isHexOrMark (c : Char) : Bool :=
  isDigitOrMark c || ('a' ≤ c && c ≤ 'f') || ('A' ≤ c && c ≤ 'F')

/-- The text of an integer without its sign. -/
def isUnsignedForm : List Char → Bool
  | ['0'] => true
  | '0' :: 'b' :: rest => !rest.isEmpty && rest.all fun c => c = '0' || c = '1' || c = '_'
  | '0' :: 'x' :: rest => !rest.isEmpty && rest.all isHexOrMark
  | '0' :: rest => rest.all fun c => ('0' ≤ c && c ≤ '7') || c = '_'
  | cs =>
    match splitAtMarks ':' cs with
    | first :: others => isDigitRun first && others.all isSixtieth
    | [] => false

/-- The text of an integer. -/
def isIntegerForm (cs : List Char) : Bool := isUnsignedForm (unsign cs)

/-! ## Timestamps -/

/-- The parts of a timestamp. -/
structure TimestampText where
  year : Nat
  month : Nat
  day : Nat
  /-- Hour, minute, second and the digits of the fraction. -/
  clock : Option (Nat × Nat × Nat × List Char)
  /-- The offset of the clock in minutes. -/
  zone : Option Int

/-- The number that decimal digits write. -/
def digitsNumber (cs : List Char) : Nat := cs.foldl (fun n c => 10 * n + (c.toNat - '0'.toNat)) 0

/-- Between `least` and `most` digits in front, and the rest. -/
def takeNumber? (least most : Nat) (cs : List Char) : Option (Nat × List Char) :=
  let digits := (cs.take most).takeWhile isDigit
  if digits.length < least then none else some (digitsNumber digits, cs.drop digits.length)

/-- The rest after a given character. -/
def dropMark? (mark : Char) : List Char → Option (List Char)
  | [] => none
  | c :: rest => if c = mark then some rest else none

/-- A zone: nothing, `Z`, or a signed offset in hours and minutes. -/
def readZone? (cs : List Char) : Option (Option Int) :=
  match cs.dropWhile fun c => c = ' ' || c = '\t' with
  | [] => if cs.isEmpty then some none else none
  | ['Z'] => some (some 0)
  | sign :: rest =>
    if sign = '+' || sign = '-' then do
      let (hours, after) ← takeNumber? 1 2 rest
      let minutes ← match after with
        | [] => some 0
        | ':' :: more => do
          let (minutes, last) ← takeNumber? 2 2 more
          if last.isEmpty then some minutes else none
        | _ => none
      let offset : Int := 60 * hours + minutes
      some (some (if sign = '-' then -offset else offset))
    else none

/-- A time of day with its zone. -/
def readClock? (cs : List Char) : Option ((Nat × Nat × Nat × List Char) × Option Int) := do
  let (hour, a) ← takeNumber? 1 2 cs
  let b ← dropMark? ':' a
  let (minute, c) ← takeNumber? 2 2 b
  let d ← dropMark? ':' c
  let (second, e) ← takeNumber? 2 2 d
  let (fraction, f) := match e with
    | '.' :: rest => (rest.takeWhile isDigit, rest.dropWhile isDigit)
    | rest => ([], rest)
  let zone ← readZone? f
  return ((hour, minute, second, fraction), zone)

/-- The gap between a date and a time of day. -/
def dropClockGap? : List Char → Option (List Char)
  | 'T' :: rest => some rest
  | 't' :: rest => some rest
  | c :: rest =>
    if c = ' ' || c = '\t' then some (rest.dropWhile fun c => c = ' ' || c = '\t') else none
  | [] => none

/-- The parts of a timestamp, if the text is one. -/
def readTimestamp? (cs : List Char) : Option TimestampText := do
  let (year, a) ← takeNumber? 4 4 cs
  let b ← dropMark? '-' a
  let (month, c) ← takeNumber? 1 2 b
  let d ← dropMark? '-' c
  let (day, e) ← takeNumber? 1 2 d
  match e with
  | [] => return ⟨year, month, day, none, none⟩
  | _ =>
    let f ← dropClockGap? e
    let (clock, zone) ← readClock? f
    return ⟨year, month, day, some clock, zone⟩

/-- The text of a timestamp; a date alone has two digits for month and day. -/
def isTimestampForm (cs : List Char) : Bool :=
  match readTimestamp? cs with
  | some t => t.clock.isSome || cs.length = 10
  | none => false

/-! ## Resolution -/

/-- A text without one line feed at its end. -/
def withoutLastBreak (cs : List Char) : List Char :=
  if cs.getLast? = some '\n' then cs.dropLast else cs

/-- The tag of an untagged plain scalar. -/
def resolveTag (text : String) : String :=
  let cs := withoutLastBreak text.toList
  let word := String.ofList cs
  if truthWords.contains word then coreTag "bool"
  else if isFloatForm cs then coreTag "float"
  else if isIntegerForm cs then coreTag "int"
  else if word = "<<" then coreTag "merge"
  else if text.isEmpty || nullWords.contains word then coreTag "null"
  else if isTimestampForm cs then coreTag "timestamp"
  else if word = "=" then coreTag "value"
  else if ["!", "&", "*"].contains word then coreTag "yaml"
  else coreTag "str"

end Yaml
end CodeCensus
