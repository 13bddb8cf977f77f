import CodeCensus.CommandLine.Word
import CodeCensus.Number.Parse
import CodeCensus.Settings.Override

/-!
# Arguments of a command line

The choices that a command line makes. Words are taken one after another; the command and the path have to
follow each other, and what is left over makes the command line unusable.

Contents: `OutputFormat`, `Arguments`, `ParseStop`, `parseArguments`.
-/

namespace CodeCensus

/-- The form of a report. -/
inductive OutputFormat where
  | json
  | markdown
  deriving DecidableEq, Repr

/-- The choices that a command line makes. -/
structure Arguments where
  command : Option Command := none
  path : String := "."
  output : Option String := none
  format : OutputFormat := .json
  summary : Bool := false
  config : Option String := none
  thresholds : List (Option String) := []
  initConfig : Bool := false
  templateDir : Option String := none
  initTemplates : Option String := none
  workers : Value := .null
  timeout : Value := .null
  noPrune : Bool := false
  watch : Bool := false
  verbose : Bool := false

/-- Why reading a command line stops before its end. -/
inductive ParseStop where
  | usage (error : UsageError)
  | help
  | version
  deriving DecidableEq, Repr

/-! ## Values -/

/-- An integer in an option. -/
def integerArgument (o : CliOption) (given : String) : Except UsageError Int :=
  match parseInteger? 10 given with
  | some n => .ok n
  | none => .error (.notInteger o given)

/-- A float in an option. -/
def floatArgument (o : CliOption) (given : String) : Except UsageError Double :=
  match parseDouble? given with
  | some x => .ok x
  | none => .error (.notFloat o given)

/-- The command with a name. -/
def commandArgument (given : String) : Except UsageError Command :=
  if given = "duplicates" then .ok .duplicates
  else if given = "metrics" then .ok .metrics
  else .error (.badCommand given)

/-- The format with a name. -/
def formatArgument (given : String) : Except UsageError OutputFormat :=
  if given = "json" then .ok .json
  else if given = "markdown" then .ok .markdown
  else .error (.badFormat given)

namespace Arguments

/-- Sets an option that takes a value. -/
def setText (a : Arguments) (o : CliOption) (given : String) : Except UsageError Arguments :=
  match o with
  | .output => .ok { a with output := some given }
  | .format => (formatArgument given).map fun f => { a with format := f }
  | .config => .ok { a with config := some given }
  | .threshold => .ok { a with thresholds := a.thresholds ++ [some given] }
  | .templateDir => .ok { a with templateDir := some given }
  | .initTemplates => .ok { a with initTemplates := some given }
  | .workers => (integerArgument o given).map fun n => { a with workers := .int n }
  | .timeout => (floatArgument o given).map fun x => { a with timeout := .float x }
  | _ => .error (.ignoredValue o given)

/-- Sets an option to no values at all. -/
def setEmpty (a : Arguments) (o : CliOption) : Arguments :=
  match o with
  | .output => { a with output := none }
  | .format => { a with format := .json }
  | .config => { a with config := none }
  | .threshold => { a with thresholds := a.thresholds ++ [none] }
  | .templateDir => { a with templateDir := none }
  | .initTemplates => { a with initTemplates := none }
  | .workers => { a with workers := .list [] }
  | .timeout => { a with timeout := .list [] }
  | _ => a

/-- Sets an option that takes a value. The marker is dropped from the values of an option, which leaves
    none. -/
def setValue (a : Arguments) (o : CliOption) (given : String) : Except UsageError Arguments :=
  if given = "--" then .ok (a.setEmpty o) else a.setText o given

/-- Sets an option that takes no value. -/
def setFlag (a : Arguments) (o : CliOption) : Except ParseStop Arguments :=
  match o with
  | .help => .error .help
  | .version => .error .version
  | .summary => .ok { a with summary := true }
  | .initConfig => .ok { a with initConfig := true }
  | .noPrune => .ok { a with noPrune := true }
  | .watch => .ok { a with watch := true }
  | .verbose => .ok { a with verbose := true }
  | _ => .error (.usage (.expectedValue o))

end Arguments

/-! ## Reading words -/

/-- How far the command and the path have been read. -/
inductive Position where
  | atCommand
  | atPath
  | behindPath
  | finished
  deriving DecidableEq, Repr

/-- An option that waits for its value, with the flags in front of it in the same word. -/
structure Waiting where
  flags : List CliOption
  option : CliOption

/-- The arguments so far, the option that waits for its value, and the words left over. -/
structure Reading where
  arguments : Arguments
  position : Position
  waiting : Option Waiting
  extras : List String

namespace Reading

/-- The start of a command line. -/
def start : Reading := ⟨{}, .atCommand, none, []⟩

/-- A word is left over. -/
def leave (r : Reading) (word : String) : Reading := { r with extras := r.extras ++ [word] }

/-- Sets an option that takes no value. -/
def flag (r : Reading) (o : CliOption) : Except ParseStop Reading := do
  let arguments ← r.arguments.setFlag o
  return { r with arguments }

/-- Sets an option that takes a value. -/
def assign (r : Reading) (o : CliOption) (value : String) : Except ParseStop Reading :=
  match r.arguments.setValue o value with
  | .ok arguments => .ok { r with arguments, waiting := none }
  | .error e => .error (.usage e)

/-- Sets an option that takes a value, after flags of the same word. -/
def assignAfter (r : Reading) (w : Waiting) (value : String) : Except ParseStop Reading := do
  let r ← w.flags.foldlM flag r
  r.assign w.option value

/-- The options of one word: the option `o` behind `flags`, and the text behind it. The text is the value
    of an option that takes one, and spells further short options otherwise. The flags are set only when
    the whole word can be read. -/
def cluster (r : Reading) (flags : List CliOption) (o : CliOption) :
    List Char → Except ParseStop Reading
  | [] =>
    if o.takesValue then .ok { r with waiting := some ⟨flags, o⟩ }
    else (flags ++ [o]).foldlM flag r
  | c :: rest =>
    if o.takesValue then r.assignAfter ⟨flags, o⟩ (String.ofList (c :: rest))
    else
      match optionNamed? (String.ofList ['-', c]) with
      | some next => cluster r (flags ++ [o]) next rest
      | none => .error (.usage (.ignoredValue o (String.ofList (c :: rest))))

/-- An option. -/
def option (r : Reading) (use : OptionUse) : Except ParseStop Reading :=
  match use.value with
  | none => r.cluster [] use.option []
  | some value =>
    if use.option.takesValue then r.assign use.option value
    else if Text.startsWith use.spelling "--" || value.isEmpty then
      .error (.usage (.ignoredValue use.option value))
    else r.cluster [] use.option value.toList

/-- A positional argument. The marker itself is never a path. -/
def positional (r : Reading) (text : String) : Except ParseStop Reading :=
  match r.position with
  | .atCommand =>
    match commandArgument text with
    | .ok command =>
      .ok { r with arguments := { r.arguments with command := some command }, position := .atPath }
    | .error e => .error (.usage e)
  | .atPath =>
    let path := if text = "--" then r.arguments.path else text
    .ok { r with arguments := { r.arguments with path }, position := .behindPath }
  | _ => .ok { r.leave text with position := .finished }

/-- The marker: it is dropped next to the command and the path, and left over elsewhere. -/
def marker (r : Reading) : Reading :=
  match r.position with
  | .behindPath => { r with position := .finished }
  | .finished => r.leave "--"
  | _ => r

/-- An option ends the run of positional arguments, unless it has not begun. -/
def interrupt (r : Reading) : Reading :=
  if r.position = .atCommand then r else { r with position := .finished }

/-- Reads one word. -/
def word (r : Reading) (w : CliWord) : Except ParseStop Reading :=
  match r.waiting, w with
  | some w, .argument text => r.assignAfter w text
  | some w, _ => .error (.usage (.expectedValue w.option))
  | none, .argument text => r.positional text
  | none, .option use => r.interrupt.option use
  | none, .unknownOption text => .ok (r.interrupt.leave text)
  | none, .marker => .ok r.marker

/-- The arguments at the end of a command line. -/
def finish (r : Reading) : Except ParseStop Arguments :=
  match r.waiting with
  | some w => .error (.usage (.expectedValue w.option))
  | none => if r.extras.isEmpty then .ok r.arguments else .error (.usage (.unrecognized r.extras))

end Reading

/-- The arguments of a command line. -/
def parseArguments (argv : List String) : Except ParseStop Arguments :=
  match classifyWords argv with
  | .error e => .error (.usage e)
  | .ok words => do
    let r ← words.foldlM Reading.word .start
    r.finish

end CodeCensus
