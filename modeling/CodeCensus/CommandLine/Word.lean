import CodeCensus.CommandLine.Option
import CodeCensus.Text.DecimalDigit
import CodeCensus.Text.Leading

/-!
# Words of a command line

Each word is an argument, an option, or the marker after which every word is an argument. Long options
may be abbreviated as long as only one is meant; a short option may carry its value or further short
options; a negative number and a word with a space are arguments.

Contents: `OptionUse`, `CliWord`, `classifyWord`, `classifyWords`.
-/

namespace CodeCensus

/-- The use of an option in a word: the option, its spelling, and the text behind it in the same word,
    without the equals sign between them. -/
structure OptionUse where
  option : CliOption
  spelling : String
  value : Option String
  deriving DecidableEq, Repr

/-- A word of a command line. -/
inductive CliWord where
  | argument (text : String)
  | option (use : OptionUse)
  | unknownOption (text : String)
  | marker
  deriving DecidableEq, Repr

/-- The text in front of the first equals sign, and the text after it, if there is one. -/
def splitEquals (word : String) : String × Option String :=
  let cs := word.toList
  match cs.dropWhile (· ≠ '=') with
  | [] => (word, none)
  | _ :: rest => (String.ofList (cs.takeWhile (· ≠ '=')), some (String.ofList rest))

/-- The long options that a word may abbreviate. -/
def longCandidates (word : String) : List OptionUse :=
  let (front, value) := splitEquals word
  (optionSpellings.filter fun e => Text.startsWith e.1 front).map fun e =>
    ⟨e.2, e.1, value⟩

/-- The short options that a word may start with. -/
def shortCandidates (word : String) : List OptionUse :=
  let cs := word.toList
  let short := String.ofList (cs.take 2)
  optionSpellings.filterMap fun e =>
    if e.1 = short then some ⟨e.2, e.1, some (String.ofList (cs.drop 2))⟩
    else if Text.startsWith e.1 word then some ⟨e.2, e.1, none⟩
    else none

/-- Digits in some script, at least one. -/
def isDigits (cs : List Char) : Bool := !cs.isEmpty && cs.all fun c => (Text.digitValue? c).isSome

/-- The word is a negative number: digits, or digits around a point. -/
def isNegativeNumber (word : String) : Bool :=
  match word.toList with
  | '-' :: rest =>
    let body := if rest.getLast? = some '\n' then rest.dropLast else rest
    let whole := body.takeWhile (· ≠ '.')
    match body.dropWhile (· ≠ '.') with
    | [] => isDigits whole
    | _ :: part => (whole.isEmpty || isDigits whole) && isDigits part
  | _ => false

/-- The use of an option whose spelling stands in front of an equals sign. -/
def equalsUse? (word : String) : Option OptionUse :=
  match splitEquals word with
  | (front, some value) => (optionNamed? front).map fun o => ⟨o, front, some value⟩
  | (_, none) => none

/-- A word that starts with a dash and is no spelling of an option. -/
def classifyDashed (word : String) : Except UsageError CliWord :=
  match equalsUse? word with
  | some use => .ok (.option use)
  | none =>
    let candidates := if Text.startsWith word "--" then longCandidates word else shortCandidates word
    match candidates with
    | [use] => .ok (.option use)
    | [] =>
      if isNegativeNumber word || word.toList.contains ' ' then .ok (.argument word)
      else .ok (.unknownOption word)
    | many => .error (.ambiguous word (many.map (·.spelling)))

/-- What a word is, in front of the marker. -/
def classifyWord (word : String) : Except UsageError CliWord :=
  if word = "--" then .ok .marker
  else if !Text.startsWith word "-" then .ok (.argument word)
  else
    match optionNamed? word with
    | some o => .ok (.option ⟨o, word, none⟩)
    | none => if word = "-" then .ok (.argument word) else classifyDashed word

/-- What each word is. -/
def classifyWords : List String → Except UsageError (List CliWord)
  | [] => .ok []
  | word :: rest => do
    match ← classifyWord word with
    | .marker => return .marker :: rest.map .argument
    | w =>
      let others ← classifyWords rest
      return w :: others

end CodeCensus
