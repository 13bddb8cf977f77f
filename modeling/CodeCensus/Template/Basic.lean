import CodeCensus.Value.Basic

/-!
# Templates

A template is text with tags in it. A tag shows a value, opens or closes a branch or a loop, or is a
remark. Either edge of a tag may be marked to drop the blanks next to it.

Contents:
* `Expr`, `Filter` — what a tag can name;
* `Tag`, `Part` — a template is a list of parts;
* `written` — the template as text.
-/

namespace CodeCensus
namespace Template

/-- A way to present a value. -/
inductive Filter where
  | grouped
  | percent
  | location
  | sorted
  deriving DecidableEq, Repr

/-- The name of a filter. -/
def Filter.name : Filter → String
  | grouped => "format_number"
  | percent => "percent"
  | location => "location"
  | sorted => "dictsort"

/-- Every filter. -/
def Filter.all : List Filter := [.grouped, .percent, .location, .sorted]

/-- The filter with a given name. -/
def Filter.ofName? (name : String) : Option Filter := Filter.all.find? fun f => f.name = name

/-- Something that has a value: a variable, a constant, a field or an item of it, or a presentation. -/
inductive Expr where
  | named (name : String)
  | constant (value : Value)
  | field (of : Expr) (name : String)
  | item (of : Expr) (index : Nat)
  | filtered (of : Expr) (filter : Filter)
  deriving Repr

/-- A tag of a template. -/
inductive Tag where
  | shown (e : Expr)
  | branch (negated : Bool) (test : Expr)
  | otherwise
  | endBranch
  | loop (names : List String) (range : Expr)
  | endLoop
  | remark (text : String)
  deriving Repr

/-- A part of a template: text, or a tag with its marked edges. -/
inductive Part where
  | text (content : String)
  | tag (trimBefore trimAfter : Bool) (t : Tag)
  deriving Repr

/-! ## Notation -/

/-- An expression as text. -/
def Expr.written : Expr → String
  | named name => name
  | constant value => value.quoted
  | field of name => of.written ++ "." ++ name
  | item of index => of.written ++ "[" ++ natDigits index ++ "]"
  | filtered of filter => of.written ++ " | " ++ filter.name

/-- The opening and closing of a tag. -/
def Tag.brackets : Tag → String × String
  | shown _ => ("\x7b\x7b", "\x7d\x7d")
  | remark _ => ("\x7b#", "#\x7d")
  | _ => ("\x7b%", "%\x7d")

/-- The inside of a tag. -/
def Tag.body : Tag → String
  | shown e => " " ++ e.written ++ " "
  | branch negated test => " if " ++ (if negated then "not " else "") ++ test.written ++ " "
  | otherwise => " else "
  | endBranch => " endif "
  | loop names range => " for " ++ String.intercalate ", " names ++ " in " ++ range.written ++ " "
  | endLoop => " endfor "
  | remark text => text

/-- The mark of an edge. -/
def edgeMark (trim : Bool) : String := if trim then "-" else ""

/-- A part as text. -/
def Part.written : Part → String
  | text content => content
  | tag trimBefore trimAfter t =>
    t.brackets.1 ++ edgeMark trimBefore ++ t.body ++ edgeMark trimAfter ++ t.brackets.2

/-- A template as text. -/
def written (parts : List Part) : String := String.join (parts.map Part.written)

end Template
end CodeCensus
