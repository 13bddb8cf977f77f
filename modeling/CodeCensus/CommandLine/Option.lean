import CodeCensus.Text.Quoted

/-!
# Command line options

The options of the program: how each is spelled, whether a value follows it, and what usage errors there
are.

Contents: `CliOption`, `CliOption.spellings`, `optionSpellings`, `UsageError`, `UsageError.message`.
-/

namespace CodeCensus

/-- An option of the command line. -/
inductive CliOption where
  | help
  | output
  | format
  | summary
  | config
  | threshold
  | initConfig
  | templateDir
  | initTemplates
  | workers
  | timeout
  | noPrune
  | watch
  | verbose
  | version
  deriving DecidableEq, Repr

namespace CliOption

/-- Every option, in the order in which abbreviations are looked up. -/
def all : List CliOption :=
  [help, output, format, summary, config, threshold, initConfig, templateDir, initTemplates, workers,
    timeout, noPrune, watch, verbose, version]

/-- The spellings of an option. -/
def spellings : CliOption → List String
  | help => ["-h", "--help"]
  | output => ["-o", "--output"]
  | format => ["--format"]
  | summary => ["--summary"]
  | config => ["--config"]
  | threshold => ["--threshold"]
  | initConfig => ["--init-config"]
  | templateDir => ["--template-dir"]
  | initTemplates => ["--init-templates"]
  | workers => ["--workers"]
  | timeout => ["--timeout"]
  | noPrune => ["--no-prune"]
  | watch => ["--watch"]
  | verbose => ["-v", "--verbose"]
  | version => ["--version"]

/-- A value follows the option. -/
def takesValue : CliOption → Bool
  | output | format | config | threshold | templateDir | initTemplates | workers | timeout => true
  | _ => false

/-- The name of an option in messages. -/
def label (o : CliOption) : String := String.intercalate "/" o.spellings

end CliOption

/-- Every spelling with its option. -/
def optionSpellings : List (String × CliOption) :=
  CliOption.all.flatMap fun o => o.spellings.map fun s => (s, o)

/-- The option with exactly this spelling. -/
def optionNamed? (spelling : String) : Option CliOption :=
  (optionSpellings.find? fun e => e.1 = spelling).map (·.2)

/-! ## Usage errors -/

/-- What is wrong with a command line. -/
inductive UsageError where
  | ambiguous (word : String) (candidates : List String)
  | expectedValue (option : CliOption)
  | ignoredValue (option : CliOption) (value : String)
  | badCommand (given : String)
  | badFormat (given : String)
  | notInteger (option : CliOption) (given : String)
  | notFloat (option : CliOption) (given : String)
  | unrecognized (words : List String)
  | commandRequired
  | badOverride (reason : String)
  deriving DecidableEq, Repr

/-- The wording of a choice that is not among those allowed. -/
def choiceText (given : String) (choices : List String) : String :=
  "invalid choice: " ++ Text.quoted given ++ " (choose from " ++
    String.intercalate ", " (choices.map Text.quoted) ++ ")"

/-- The wording of an error. -/
def UsageError.message : UsageError → String
  | ambiguous word candidates =>
    "ambiguous option: " ++ word ++ " could match " ++ String.intercalate ", " candidates
  | expectedValue o => "argument " ++ o.label ++ ": expected one argument"
  | ignoredValue o value =>
    "argument " ++ o.label ++ ": ignored explicit argument " ++ Text.quoted value
  | badCommand given => "argument command: " ++ choiceText given ["duplicates", "metrics"]
  | badFormat given =>
    "argument " ++ CliOption.format.label ++ ": " ++ choiceText given ["json", "markdown"]
  | notInteger o given => "argument " ++ o.label ++ ": invalid int value: " ++ Text.quoted given
  | notFloat o given => "argument " ++ o.label ++ ": invalid float value: " ++ Text.quoted given
  | unrecognized words => "unrecognized arguments: " ++ String.intercalate " " words
  | commandRequired => "a command is required: duplicates or metrics"
  | badOverride reason => reason

end CodeCensus
