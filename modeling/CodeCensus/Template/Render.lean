import CodeCensus.Number.Basic
import CodeCensus.Number.Parse
import CodeCensus.Template.Thing
import CodeCensus.Template.Tree
import CodeCensus.Text.LowerCase
import CodeCensus.Value.Sort

/-!
# Rendering templates

The text of a template under an assignment of things to variables. What is not there shows as nothing and
counts as false, but it has no fields and cannot be presented.

Contents:
* `RenderFault`;
* `Expr.eval` with the filters;
* `renderPieces`.
-/

namespace CodeCensus
namespace Template

/-! ## What can go wrong -/

/-- Why a template cannot be rendered. -/
inductive RenderFault where
  | absent (reason : String)
  | badInteger (text : String)
  | notANumber
  | infinite
  | notNumeric (kind : String)
  | notScalable (kind : String)
  | textAsFloat
  | noFloatFormat (kind : String)
  | tooLarge
  | notContainer (kind : String)
  | missingKey (key : String)
  | textKey
  | listKey (kind : String)
  | notIterable (kind : String)
  | notMap (kind : String)
  | unordered (fault : OrderFault)
  | notPair
  | noBlock
  | notNarrowable (text : String)
  deriving DecidableEq, Repr

/-- The wording of a fault. -/
def RenderFault.message : RenderFault → String
  | absent reason => reason
  | badInteger text => notIntegerMessage 10 text
  | notANumber => "cannot convert float NaN to integer"
  | infinite => "cannot convert float infinity to integer"
  | notNumeric kind =>
    "int() argument must be a string, a bytes-like object or a real number, not '" ++ kind ++ "'"
  | notScalable kind => "unsupported operand type(s) for *: '" ++ kind ++ "' and 'int'"
  | textAsFloat => "Unknown format code 'f' for object of type 'str'"
  | noFloatFormat kind => "unsupported format string passed to " ++ kind ++ ".__format__"
  | tooLarge => "int too large to convert to float"
  | notContainer kind => "argument of type '" ++ kind ++ "' is not iterable"
  | missingKey key => Text.quoted key
  | textKey => "string indices must be integers, not 'str'"
  | listKey kind => kind ++ " indices must be integers or slices, not str"
  | notIterable kind => "'" ++ kind ++ "' object is not iterable"
  | notMap kind => "'" ++ kind ++ "' object has no attribute 'items'"
  | unordered fault => fault.message
  | notPair => "cannot unpack loop item"
  | noBlock => "0"
  | notNarrowable text => text ++ " is not a generic class"

/-! ## Filters -/

/-- The integer that a thing is rounded to, towards zero, or writes. -/
def wholeNumber (x : Thing) : Except RenderFault Int :=
  match x with
  | .value (.int n) => .ok n
  | .value (.bool b) => .ok (if b then 1 else 0)
  | .value (.float y) =>
    match y.truncate? with
    | some n => .ok n
    | none => .error (if y.isNan then .notANumber else .infinite)
  | .value (.text s) =>
    match parseInteger? 10 s with
    | some n => .ok n
    | none => .error (.badInteger s)
  | _ => .error (.notNumeric x.kindOf.usedName)

/-- A double as a percentage with one decimal. -/
def percentText (x : Double) : String := x.fixedText 1 ++ "%"

/-- An integer number of hundredths as a percentage. -/
def wholePercent (n : Int) : Except RenderFault String :=
  match Double.ofInt? (100 * n) with
  | some x => .ok (percentText x)
  | none => .error .tooLarge

/-- A thing times a hundred, with one decimal. -/
def percentOf (x : Thing) : Except RenderFault String :=
  match x with
  | .value (.int n) => wholePercent n
  | .value (.bool b) => wholePercent (if b then 1 else 0)
  | .value (.float y) => .ok (percentText (y * Double.ofInt 100))
  | .value (.text _) => .error .textAsFloat
  | _ =>
    match x.kindOf with
    | .list | .tuple | .bytes | .span => .error (.noFloatFormat x.kindOf.usedName)
    | k => .error (.notScalable k.usedName)

/-- The key of a map that has to be there. -/
def requiredKey (entries : List (Value × Value)) (key : String) : Except RenderFault Value :=
  match Value.lookup? entries (.text key) with
  | some v => .ok v
  | none => .error (.missingKey key)

/-- Where a group member lies: its path, with its lines when it has any. -/
def locationOf (x : Thing) : Except RenderFault Value :=
  match x with
  | .value (.map entries) =>
    match Value.lookup? entries (.text "startLine") with
    | none => requiredKey entries "path"
    | some first => do
      let path ← requiredKey entries "path"
      let last ← requiredKey entries "endLine"
      return .text (path.display ++ ":" ++ first.display ++ "-" ++ last.display)
  | .template _ => .error .noBlock
  | .narrowed _ _ => .error (.notNarrowable x.shown)
  | .members _ => .error (.missingKey "path")
  | _ =>
    match x.kindOf with
    | .text => .error .textKey
    | .list | .tuple => .error (.listKey x.kindOf.usedName)
    | k => .error (.notContainer k.usedName)

/-- The key by which map entries are sorted: texts in lower case. -/
def sortKey (v : Value) : Value :=
  match v with
  | .text s => .text (Text.lower s)
  | _ => v

/-- The entries of a map sorted by key, without regard to case; entries with equal keys keep their
    order. -/
def sortedEntries (x : Thing) : Except RenderFault Value :=
  match x with
  | .value (.map entries) =>
    match sortByRuns (fun a b => (sortKey a.1).less (sortKey b.1)) entries with
    | .ok sorted => .ok (.list (sorted.map fun e => .tuple [e.1, e.2]))
    | .error fault => .error (.unordered fault)
  | _ => .error (.notMap x.kindOf.usedName)

/-- The presentation of a thing. -/
def Filter.apply : Filter → Thing → Except RenderFault Value
  | grouped, x => do
    let n ← wholeNumber x
    return .text (groupedText n)
  | percent, x => (percentOf x).map .text
  | location, x => locationOf x
  | sorted, x => sortedEntries x

/-! ## Expressions -/

/-- What the variables stand for, the innermost first. -/
abbrev Scope := List (String × Thing)

/-- A thing that has to be there. -/
def present (x : Thing) : Except RenderFault Thing :=
  if x.isAbsent then .error (.absent x.absenceText) else .ok x

/-- A field of a thing: the member with the name, or else the entry. What is not there has no entries. -/
def fieldOf (x : Thing) (name : String) : Except RenderFault Thing :=
  match x.attribute? name with
  | some y => .ok y
  | none => do
    let x ← present x
    return (x.entry? name).getD (.absent x (.text name))

/-- An item of a thing by its position, or by its key in a map. -/
def itemOf (x : Thing) (index : Nat) : Thing := (x.item? index).getD (.absent x (.int index))

/-- What an expression stands for. -/
def Expr.eval (scope : Scope) : Expr → Except RenderFault Thing
  | named name => .ok (((scope.find? fun e => e.1 = name).map (·.2)).getD (.unset name))
  | constant value => .ok (.value value)
  | field of name => do
    let x ← of.eval scope
    fieldOf x name
  | item of index => do
    let x ← present (← of.eval scope)
    return itemOf x index
  | filtered of filter => do
    let x ← present (← of.eval scope)
    let v ← filter.apply x
    return .value v

/-- Whether a thing counts as true. -/
def holds : Thing → Bool
  | .value v => v.truthy
  | x => !x.isAbsent

/-- What a loop runs over. -/
def loopItems (x : Thing) : Except RenderFault (List Value) :=
  match x with
  | .value (.list items) => .ok items
  | .value (.tuple items) => .ok items
  | .value (.map entries) => .ok (entries.map (·.1))
  | .value (.text s) => .ok (s.toList.map fun c => .text (String.ofList [c]))
  | _ => if x.isAbsent then .ok [] else .error (.notIterable x.kindOf.usedName)

/-- The variables of one pass of a loop, with the number of the pass. -/
def bindItem (names : List String) (number : Nat) (v : Value) : Except RenderFault Scope :=
  let pass : String × Thing := ("loop", .value (.ofFields [("index", .nat number)]))
  match names, v with
  | [name], v => .ok [(name, .value v), pass]
  | [a, b], .tuple [x, y] => .ok [(a, .value x), (b, .value y), pass]
  | [a, b], .list [x, y] => .ok [(a, .value x), (b, .value y), pass]
  | _, _ => .error .notPair

/-! ## Pieces -/

mutual

/-- The text of a piece. -/
def renderPiece (scope : Scope) : Piece → Except RenderFault String
  | .text content => .ok content
  | .shown e => do
    let x ← e.eval scope
    return x.shown
  | .branch negated test yes no => do
    let x ← test.eval scope
    if holds x != negated then renderPieces scope yes else renderPieces scope no
  | .loop names range body => do
    let x ← range.eval scope
    let items ← loopItems x
    let texts ← items.zipIdx.mapM fun (v, index) => do
      let inner ← bindItem names (index + 1) v
      renderPieces (inner ++ scope) body
    return String.join texts

/-- The text of pieces one after another. -/
def renderPieces (scope : Scope) : List Piece → Except RenderFault String
  | [] => .ok ""
  | p :: rest => do
    let first ← renderPiece scope p
    let others ← renderPieces scope rest
    return first ++ others

end

end Template
end CodeCensus
