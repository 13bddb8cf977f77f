import CodeCensus.Value.Basic

/-!
# JSON text of values

Reports are printed as JSON with two blanks of indentation per level. All characters outside ASCII are
written by their UTF-16 units, numbers by their shortest text, and values that JSON does not know by
their plain text.

Contents: `Json.escapeChar`, `Json.quote`, `Value.jsonText`.
-/

namespace CodeCensus
namespace Json

/-- One UTF-16 unit written by its number. -/
def escapeUnit (n : Nat) : List Char := '\\' :: 'u' :: Text.hexDigits 4 n

/-- One character inside quotes. -/
def escapeChar (c : Char) : List Char :=
  let n := c.toNat
  if c = '\x22' then ['\\', '\x22']
  else if c = '\\' then ['\\', '\\']
  else if c = '\n' then ['\\', 'n']
  else if c = '\r' then ['\\', 'r']
  else if c = '\t' then ['\\', 't']
  else if n = 0x08 then ['\\', 'b']
  else if n = 0x0c then ['\\', 'f']
  else if 0x20 ≤ n && n < 0x7f then [c]
  else if n < 0x10000 then escapeUnit n
  else
    let m := n - 0x10000
    escapeUnit (0xd800 + m / 0x400) ++ escapeUnit (0xdc00 + m % 0x400)

/-- A text in double quotes. -/
def quote (s : String) : String :=
  String.ofList ('\x22' :: s.toList.flatMap escapeChar ++ ['\x22'])

/-- A double in JSON. -/
def doubleText : Double → String
  | .nan _ => "NaN"
  | .infinite s => if s then "-Infinity" else "Infinity"
  | x => x.text

/-- A line feed and the indentation of a level. -/
def newline (level : Nat) : String := "\n" ++ String.ofList (List.replicate (2 * level) ' ')

/-- Parts between brackets, each on a line of its own. -/
def bracket (opening closing : String) (level : Nat) (parts : List String) : String :=
  if parts.isEmpty then opening ++ closing
  else
    opening ++ newline (level + 1) ++ String.intercalate ("," ++ newline (level + 1)) parts ++
      newline level ++ closing

/-- The text of a key. -/
def keyText : Value → String
  | .null => "null"
  | .bool b => if b then "true" else "false"
  | .float x => doubleText x
  | v => v.display

end Json

namespace Value

mutual

/-- The JSON text of a value at a level of indentation. -/
def jsonAt (level : Nat) : Value → String
  | null => "null"
  | bool b => if b then "true" else "false"
  | int n => intText n
  | float x => Json.doubleText x
  | list items => Json.bracket "[" "]" level (jsonItems (level + 1) items)
  | tuple items => Json.bracket "[" "]" level (jsonItems (level + 1) items)
  | map entries => Json.bracket "\x7b" "\x7d" level (jsonEntries (level + 1) entries)
  | v => Json.quote v.display

/-- The JSON text of each item. -/
def jsonItems (level : Nat) : List Value → List String
  | [] => []
  | v :: rest => v.jsonAt level :: jsonItems level rest

/-- The JSON text of each entry. -/
def jsonEntries (level : Nat) : List (Value × Value) → List String
  | [] => []
  | e :: rest => jsonEntry level e :: jsonEntries level rest

/-- The JSON text of a key with its value. -/
def jsonEntry (level : Nat) : Value × Value → String
  | (k, v) => Json.quote (Json.keyText k) ++ ": " ++ v.jsonAt level

end

/-- The JSON text of a value. -/
def jsonText (v : Value) : String := v.jsonAt 0

end Value
end CodeCensus
