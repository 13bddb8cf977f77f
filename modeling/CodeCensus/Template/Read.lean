import CodeCensus.Number.Parse
import CodeCensus.Template.Basic
import CodeCensus.Text.Blank
import CodeCensus.Text.NameChar

/-!
# Reading templates

A template from its text. Tags stand in double braces, or in braces with percent signs or number signs;
all else is text.

Contents: `TemplateFault`, `tagWords`, `parseExpr`, `parseTag`, `readParts`, `parseTemplate`.
-/

namespace CodeCensus
namespace Template

/-- What is wrong with a template. -/
inductive TemplateFault where
  | unclosedTag
  | badTag (body : String)
  | badName
  | noFieldName
  | noExpression (found : String)
  | unexpected (wanted found : String)
  | unknownFilter (name : String)
  | unbalanced
  deriving DecidableEq, Repr

/-- The wording of a fault. -/
def TemplateFault.message : TemplateFault → String
  | unclosedTag => "unexpected end of template"
  | badTag body => "unexpected tag content " ++ Text.quoted body
  | badName => "Invalid character in identifier"
  | noFieldName => "expected name or number"
  | noExpression found => "Expected an expression, got " ++ Text.quoted found
  | unexpected wanted found =>
    "expected token " ++ Text.quoted wanted ++ ", got " ++ Text.quoted found
  | unknownFilter name => "No filter named " ++ Text.quoted name ++ "."
  | unbalanced => "blocks do not match"

/-! ## Words of a tag -/

/-- A word of a tag: a name, a whole number, a number with a point or an exponent, or a mark. -/
inductive Word where
  | name (s : String)
  | number (n : Nat)
  | decimal
  | mark (c : Char)
  deriving DecidableEq, Repr

/-- How messages name a word. -/
def Word.label : Word → String
  | name s => s
  | number _ => "integer"
  | decimal => "float"
  | mark c => c.toString

/-- A digit of any script. -/
def isDecimal (c : Char) : Bool := (Text.digitValue? c).isSome

/-- The front of a text that holds digits, each possibly after an underscore; the first one is after one
    only if that is `allowed`. The digits come without the underscores. -/
def markedDigits (isDigit : Char → Bool) : (allowed : Bool) → List Char → List Char × List Char
  | allowed, '_' :: c :: rest =>
    if allowed && isDigit c then
      let (digits, after) := markedDigits isDigit true rest
      (c :: digits, after)
    else ([], '_' :: c :: rest)
  | _, c :: rest =>
    if isDigit c then
      let (digits, after) := markedDigits isDigit true rest
      (c :: digits, after)
    else ([], c :: rest)
  | _, [] => ([], [])

/-- A number with the mark of its base in front, and what follows it. -/
def basedNumber? (cs : List Char) : Option (Nat × List Char) :=
  let read (base : Nat) (isDigit : Char → Bool) (rest : List Char) : Option (Nat × List Char) :=
    match markedDigits isDigit true rest with
    | ([], _) => none
    | (digits, after) => (parseInteger? base (String.ofList digits)).map fun n => (n.toNat, after)
  match cs with
  | '0' :: c :: rest =>
    if c = 'b' || c = 'B' then read 2 (fun d => d = '0' || d = '1') rest
    else if c = 'o' || c = 'O' then read 8 (fun d => '0' ≤ d && d ≤ '7') rest
    else if c = 'x' || c = 'X' then
      read 16 (fun d => isDecimal d || ('a' ≤ d && d ≤ 'f') || ('A' ≤ d && d ≤ 'F')) rest
    else none
  | _ => none

/-- A whole number at the front, and what follows it. A decimal number does not start with a zero, and zero
    may be written with several. -/
def wholeNumber? (cs : List Char) : Option (Nat × List Char) :=
  match basedNumber? cs with
  | some found => some found
  | none =>
    match cs with
    | '0' :: rest => some (0, (markedDigits (· = '0') true rest).2)
    | c :: rest =>
      if '1' ≤ c && c ≤ '9' then
        let (digits, after) := markedDigits isDecimal true rest
        (parseInteger? 10 (String.ofList (c :: digits))).map fun n => (n.toNat, after)
      else none
    | [] => none

/-- What follows the exponent at the front. -/
def afterExponent? : List Char → Option (List Char)
  | e :: rest =>
    if e = 'e' || e = 'E' then
      let unsigned := match rest with
        | '+' :: more | '-' :: more => more
        | more => more
      match markedDigits isDecimal false unsigned with
      | ([], _) => none
      | (_, after) => some after
    else none
  | [] => none

/-- What follows the number with a point or an exponent at the front. -/
def afterDecimal? (cs : List Char) : Option (List Char) :=
  match markedDigits isDecimal false cs with
  | ([], _) => none
  | (_, '.' :: rest) =>
    match markedDigits isDecimal false rest with
    | ([], _) => none
    | (_, after) => some ((afterExponent? after).getD after)
  | (_, after) => afterExponent? after

/-- The words of a tag. Right after a point a number ends before the next point. -/
def wordsFrom : (fuel : Nat) → (afterPoint : Bool) → List Char → Except TemplateFault (List Word)
  | 0, _, _ => .ok []
  | _, _, [] => .ok []
  | fuel + 1, afterPoint, c :: rest =>
    if Text.isBlank c then wordsFrom fuel false rest
    else
      match if afterPoint then none else afterDecimal? (c :: rest) with
      | some after => (wordsFrom fuel false after).map (.decimal :: ·)
      | none =>
        match wholeNumber? (c :: rest) with
        | some (n, after) => (wordsFrom fuel false after).map (.number n :: ·)
        | none =>
          if Text.isNameChar c then
            let run := (c :: rest).takeWhile Text.isNameChar
            if Text.isName run then
              (wordsFrom fuel false ((c :: rest).drop run.length)).map (.name (String.ofList run) :: ·)
            else .error .badName
          else (wordsFrom fuel (c = '.') rest).map (.mark c :: ·)

/-- The words of a tag. -/
def tagWords (cs : List Char) : Except TemplateFault (List Word) := wordsFrom (cs.length + 1) false cs

/-! ## Expressions -/

/-- How messages name the next word of a tag, or its end. -/
def labelOf (ending : String) : List Word → String
  | [] => ending
  | w :: _ => w.label

/-- The rest of the name of a filter after its first part. -/
def filterName (ending : String) (name : String) : List Word → Except TemplateFault (String × List Word)
  | .mark '.' :: .name n :: rest => filterName ending (name ++ "." ++ n) rest
  | .mark '.' :: rest => .error (.unexpected "name" (labelOf ending rest))
  | rest => .ok (name, rest)

/-- The filters after an expression; `ending` names the end of the tag. -/
def parseFilters (ending : String) : (fuel : Nat) → Expr → List Word → Except TemplateFault Expr
  | _, e, [] => .ok e
  | fuel + 1, e, .mark '|' :: .name n :: rest => do
    let (name, rest) ← filterName ending n rest
    match Filter.ofName? name with
    | some f => parseFilters ending fuel (.filtered e f) rest
    | none => throw (.unknownFilter name)
  | _, _, .mark '|' :: rest => .error (.unexpected "name" (labelOf ending rest))
  | _, _, rest => .error (.unexpected ending (labelOf ending rest))

/-- What follows the first word of an expression: fields, items and filters. -/
def parseSuffixes (ending : String) : Expr → List Word → Except TemplateFault Expr
  | e, .mark '.' :: .name n :: rest => parseSuffixes ending (.field e n) rest
  | e, .mark '.' :: .number i :: rest => parseSuffixes ending (.item e i) rest
  | _, .mark '.' :: _ => .error .noFieldName
  | e, .mark '[' :: .number i :: .mark ']' :: rest => parseSuffixes ending (.item e i) rest
  | e, rest => parseFilters ending (rest.length + 1) e rest

/-- The constant that a name stands for. -/
def constant? (name : String) : Option Value :=
  if name = "true" || name = "True" then some (.bool true)
  else if name = "false" || name = "False" then some (.bool false)
  else if name = "none" || name = "None" then some .null
  else none

/-- An expression from its words. -/
def parseExpr (ending : String) : List Word → Except TemplateFault Expr
  | .name n :: rest => parseSuffixes ending (((constant? n).map .constant).getD (.named n)) rest
  | .number i :: rest => parseSuffixes ending (.constant (.int i)) rest
  | rest => .error (.noExpression (labelOf ending rest))

/-! ## Tags -/

/-- The end of a tag in double braces, as messages name it. -/
def endOfShown : String := "end of print statement"

/-- The end of a tag in braces with percent signs, as messages name it. -/
def endOfBlock : String := "end of statement block"

/-- A tag in braces with percent signs. -/
def parseBlockTag (body : String) : List Word → Except TemplateFault Tag
  | .name "if" :: .name "not" :: rest => (parseExpr endOfBlock rest).map (.branch true)
  | .name "if" :: rest => (parseExpr endOfBlock rest).map (.branch false)
  | [.name "else"] => .ok .otherwise
  | [.name "endif"] => .ok .endBranch
  | .name "for" :: .name a :: .name "in" :: rest => (parseExpr endOfBlock rest).map (.loop [a])
  | .name "for" :: .name a :: .mark ',' :: .name b :: .name "in" :: rest =>
    (parseExpr endOfBlock rest).map (.loop [a, b])
  | [.name "endfor"] => .ok .endLoop
  | _ => .error (.badTag body)

/-- The kind of a tag, by the character after its first brace. -/
inductive TagKind where
  | shown
  | block
  | remark
  deriving DecidableEq, Repr

/-- The kind of tag that a character after a brace opens. -/
def TagKind.ofChar? (c : Char) : Option TagKind :=
  if c = '\x7b' then some .shown else if c = '%' then some .block
  else if c = '#' then some .remark else none

/-- The character in front of the last brace of a tag. -/
def TagKind.closing : TagKind → Char
  | shown => '\x7d'
  | block => '%'
  | remark => '#'

/-- A tag from its inside. -/
def parseTag (kind : TagKind) (cs : List Char) : Except TemplateFault Tag :=
  let body := String.ofList cs
  match kind with
  | .shown => do
    let e ← parseExpr endOfShown (← tagWords cs)
    return .shown e
  | .block => do
    parseBlockTag body (← tagWords cs)
  | .remark => .ok (.remark body)

/-- A mark at the front of the inside of a tag: whether it drops blanks, and the rest. -/
def splitEdge : List Char → Bool × List Char
  | '-' :: rest => (true, rest)
  | '+' :: rest => (false, rest)
  | cs => (false, cs)

/-- The part for the inside of a tag, edge marks included. -/
def tagPart (kind : TagKind) (inside : List Char) : Except TemplateFault Part := do
  let (trimBefore, rest) := splitEdge inside
  let (trimAfter, reversed) := splitEdge rest.reverse
  let t ← parseTag kind reversed.reverse
  return .tag trimBefore trimAfter t

/-! ## Templates -/

/-- The part for a run of text, in front of later parts. -/
def closeText (run : List Char) (later : List Part) : List Part :=
  if run.isEmpty then later else .text (String.ofList run.reverse) :: later

/-- Reads parts. Outside a tag `inside` is absent and `run` holds the text so far, reversed; in a tag it
    holds the tag's kind, and `run` what is inside. -/
def readParts (inside : Option TagKind) (run : List Char) :
    List Char → Except TemplateFault (List Part)
  | [] =>
    match inside with
    | none => .ok (closeText run [])
    | some _ => .error .unclosedTag
  | [c] =>
    match inside with
    | none => .ok (closeText (c :: run) [])
    | some _ => .error .unclosedTag
  | c :: d :: rest =>
    match inside with
    | none =>
      match if c = '\x7b' then TagKind.ofChar? d else none with
      | some kind => do
        let parts ← readParts (some kind) [] rest
        return closeText run parts
      | none => readParts none (c :: run) (d :: rest)
    | some kind =>
      if c = kind.closing && d = '\x7d' then do
        let part ← tagPart kind run.reverse
        let parts ← readParts none [] rest
        return part :: parts
      else readParts (some kind) (c :: run) (d :: rest)

/-- The template that a text writes. -/
def parseTemplate (text : String) : Except TemplateFault (List Part) := readParts none [] text.toList

end Template
end CodeCensus
