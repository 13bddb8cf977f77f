import CodeCensus.Calendar.Date
import CodeCensus.Text.Quoted

/-!
# Values

The values that settings documents hold and reports are made of: scalars, dates, lists, maps and sets. A
map keeps the order in which its keys first came. A list or map inside itself is held as a mark.

Contents:
* `Value`, its key equality `Value.sameKey`, map access (`Value.get?`, `Value.store`) and truth;
* `Value.typeName` — how messages name the kind of a value;
* `Value.quoted`, `Value.display` — how messages show a value, with and without quotes.
-/

namespace CodeCensus

/-- A dynamically typed value. -/
inductive Value where
  | null
  | bool (b : Bool)
  | int (n : Int)
  | float (x : Double)
  | text (s : String)
  | bytes (content : List UInt8)
  | date (d : Date)
  | moment (m : Moment)
  | list (items : List Value)
  | tuple (items : List Value)
  | map (entries : List (Value × Value))
  | set (members : List Value)
  /-- A list inside itself. -/
  | listAgain
  /-- A map inside itself. -/
  | mapAgain
  deriving Repr, Inhabited

namespace Value

/-! ## Numbers and keys -/

/-- The number that a value counts as when it is a key or compared: truth values count as 0 and 1. -/
def asNumber? : Value → Option (Int ⊕ Double)
  | bool b => some (.inl (if b then 1 else 0))
  | int n => some (.inl n)
  | float x => some (.inr x)
  | _ => none

/-- Two numbers are equal. -/
def sameNumber : Int ⊕ Double → Int ⊕ Double → Bool
  | .inl m, .inl n => m = n
  | .inl m, .inr y => y.compareInt? m == some .eq
  | .inr x, .inl n => x.compareInt? n == some .eq
  | .inr x, .inr y => x.compare? y == some .eq

/-- One number is less than another. -/
def precedes : Int ⊕ Double → Int ⊕ Double → Bool
  | .inl m, .inl n => m < n
  | .inl m, .inr y => y.compareInt? m == some .gt
  | .inr x, .inl n => x.compareInt? n == some .lt
  | .inr x, .inr y => x.compare? y == some .lt

/-- Two values are the same key of a map. Numbers are compared by value, whatever their kind; a NaN is the
    same key as its copies. -/
def sameKey : Value → Value → Bool
  | null, null => true
  | text s, text t => s = t
  | bytes a, bytes b => a = b
  | date a, date b => a = b
  | moment a, moment b => a.same b
  | tuple (x :: xs), tuple (y :: ys) => sameKey x y && sameKey (tuple xs) (tuple ys)
  | tuple [], tuple [] => true
  | float (.nan m), float (.nan n) => m = n && m != 0
  | x, y =>
    match x.asNumber?, y.asNumber? with
    | some a, some b => sameNumber a b
    | _, _ => false

/-- The value with a mark on it, when it is a NaN without one. -/
def marked (mark : Nat) : Value → Value
  | float (.nan 0) => float (.nan mark)
  | v => v

/-- The value can be a key of a map. -/
def isHashable : Value → Bool
  | list _ | map _ | set _ | listAgain | mapAgain => false
  | tuple [] => true
  | tuple (x :: xs) => x.isHashable && (tuple xs).isHashable
  | _ => true

/-! ## Maps -/

/-- The value under a key in a list of entries. -/
def lookup? (entries : List (Value × Value)) (key : Value) : Option Value :=
  (entries.find? fun e => e.1.sameKey key).map (·.2)

/-- Stores a value under a key; a key that is already there keeps its place and its first form. -/
def store (entries : List (Value × Value)) (key value : Value) : List (Value × Value) :=
  if entries.any fun e => e.1.sameKey key then
    entries.map fun e => if e.1.sameKey key then (e.1, value) else e
  else entries ++ [(key, value)]

/-- The entries of the first list, overridden and extended by those of the second. -/
def merge (base later : List (Value × Value)) : List (Value × Value) :=
  later.foldl (fun acc e => store acc e.1 e.2) base

/-- A map with text keys. -/
def ofFields (fields : List (String × Value)) : Value := map (fields.map fun f => (text f.1, f.2))

/-- The value of a field of a map. -/
def get? (v : Value) (field : String) : Option Value :=
  match v with
  | map entries => lookup? entries (text field)
  | _ => none

@[simp] theorem get?_ofFields_nil (field : String) : (ofFields []).get? field = none := rfl

@[simp] theorem get?_ofFields_cons (name field : String) (v : Value) (fields : List (String × Value)) :
    (ofFields ((name, v) :: fields)).get? field =
      if name = field then some v else (ofFields fields).get? field := by
  by_cases h : name = field <;> simp [ofFields, get?, lookup?, sameKey, h]

/-- A natural number as a value. -/
def nat (n : Nat) : Value := int n

/-- A list of texts. -/
def texts (items : List String) : Value := list (items.map text)

/-! ## Truth -/

/-- Whether a value counts as true: everything but nothing, zero and empty collections. -/
def truthy : Value → Bool
  | null => false
  | bool b => b
  | int n => n != 0
  | float x => x.compareInt? 0 != some .eq
  | text s => !s.isEmpty
  | bytes b => !b.isEmpty
  | date _ => true
  | moment _ => true
  | list items => !items.isEmpty
  | tuple items => !items.isEmpty
  | map entries => !entries.isEmpty
  | set members => !members.isEmpty
  | listAgain => true
  | mapAgain => true

/-! ## Texts -/

/-- How messages name the kind of a value. -/
def typeName : Value → String
  | null => "NoneType"
  | bool _ => "bool"
  | int _ => "int"
  | float _ => "float"
  | text _ => "str"
  | bytes _ => "bytes"
  | date _ => "date"
  | moment _ => "datetime"
  | list _ | listAgain => "list"
  | tuple _ => "tuple"
  | map _ | mapAgain => "dict"
  | set _ => "set"

/-- The kind of a value with the family it belongs to, as messages about its use name it. -/
def fullTypeName (v : Value) : String :=
  match v with
  | date _ => "datetime.date"
  | moment _ => "datetime.datetime"
  | _ => v.typeName

/-- One byte inside quotes. -/
def escapeByte (mark : Char) (b : UInt8) : List Char :=
  let c := Char.ofNat b.toNat
  if b.toNat < 0x80 then Text.escapeChar mark c else '\\' :: 'x' :: Text.hexDigits 2 b.toNat

/-- Bytes in quotes. -/
def quotedBytes (content : List UInt8) : String :=
  let mark := Text.quoteMark (content.map fun b => Char.ofNat b.toNat)
  String.ofList ('b' :: mark :: content.flatMap (escapeByte mark) ++ [mark])

/-- A date, as messages show it. -/
def quotedDate (d : Date) : String :=
  "datetime.date(" ++ natDigits d.year ++ ", " ++ natDigits d.month ++ ", " ++ natDigits d.day ++ ")"

/-- A clock offset, as messages show it. -/
def quotedOffset (seconds : Int) : String :=
  if seconds = 0 then "datetime.timezone.utc"
  else
    let days := Int.fdiv seconds 86400
    let rest := Int.fmod seconds 86400
    let parts := (if days = 0 then [] else ["days=" ++ intText days]) ++
      (if rest = 0 then [] else ["seconds=" ++ intText rest])
    "datetime.timezone(datetime.timedelta(" ++ String.intercalate ", " parts ++ "))"

/-- A moment, as messages show it. -/
def quotedMoment (m : Moment) : String :=
  let t := m.time
  let base := [m.date.year, m.date.month, m.date.day, t.hour, t.minute]
  let seconds := if t.second = 0 ∧ t.microsecond = 0 then [] else [t.second]
  let fraction := if t.microsecond = 0 then [] else [t.microsecond]
  let zone := match m.offset with
    | none => []
    | some seconds => ["tzinfo=" ++ quotedOffset seconds]
  "datetime.datetime(" ++
    String.intercalate ", " ((base ++ seconds ++ fraction).map natDigits ++ zone) ++ ")"

mutual

/-- The value as messages show it: texts in quotes, collections with all their members. -/
def quoted : Value → String
  | null => "None"
  | bool b => if b then "True" else "False"
  | int n => intText n
  | float x => x.text
  | text s => Text.quoted s
  | bytes content => quotedBytes content
  | date d => quotedDate d
  | moment m => quotedMoment m
  | list items => "[" ++ String.intercalate ", " (quotedItems items) ++ "]"
  | tuple items =>
    let parts := quotedItems items
    if parts.length = 1 then "(" ++ String.join parts ++ ",)"
    else "(" ++ String.intercalate ", " parts ++ ")"
  | map entries => "\x7b" ++ String.intercalate ", " (quotedEntries entries) ++ "\x7d"
  | set members =>
    let parts := quotedItems members
    if parts.isEmpty then "set()" else "\x7b" ++ String.intercalate ", " parts ++ "\x7d"
  | listAgain => "[...]"
  | mapAgain => "\x7b...\x7d"

/-- Each item as messages show it. -/
def quotedItems : List Value → List String
  | [] => []
  | v :: rest => v.quoted :: quotedItems rest

/-- Each entry as messages show it. -/
def quotedEntries : List (Value × Value) → List String
  | [] => []
  | e :: rest => quotedEntry e :: quotedEntries rest

/-- A key with its value. -/
def quotedEntry : Value × Value → String
  | (k, v) => k.quoted ++ ": " ++ v.quoted

end

/-- The value as plain text: texts without quotes, all else as messages show it. -/
def display : Value → String
  | text s => s
  | date d => d.isoText
  | moment m => m.textWith " "
  | v => v.quoted

end Value
end CodeCensus
