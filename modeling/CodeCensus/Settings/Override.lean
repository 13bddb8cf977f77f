import CodeCensus.Settings.Document

/-!
# Overrides and run options

Single thresholds can be overridden by items `KEY=VALUE`, whose values are written as in a settings
document. Together with a document and the choices made on the command line they give the options of a
run.

Contents: `OverrideError`, `parseOverrides`, `Command`, `RunChoices`, `RunOptions`, `buildOptions`.
-/

namespace CodeCensus

/-! ## Overrides -/

/-- Why an override cannot be used. -/
inductive OverrideError where
  | notAssignment (item : String)
  | noItem
  | faulty (fault : Yaml.Fault)
  deriving Repr

/-- The wording of an error. -/
def OverrideError.message : OverrideError → String
  | notAssignment item => "Invalid threshold " ++ Text.quoted item ++ ", expected KEY=VALUE"
  | noItem => "'list' object has no attribute 'partition'"
  | faulty fault => fault.message

/-- The key and the text of the value of an item; the key is trimmed and not empty. -/
def splitOverride (item : String) : Except OverrideError (String × String) :=
  let cs := item.toList
  let key := Text.trimChars (cs.takeWhile (· ≠ '='))
  match cs.dropWhile (· ≠ '=') with
  | [] => .error (.notAssignment item)
  | _ :: raw =>
    if key.isEmpty then .error (.notAssignment item)
    else .ok (String.ofList key, String.ofList raw)

/-- The key and the value of an item; a blank value is nothing. -/
def parseOverride (item : String) : Except OverrideError (String × Value) := do
  let (key, raw) ← splitOverride item
  if (Text.trim raw).isEmpty then return (key, .null)
  match Yaml.loadText raw with
  | .ok value => return (key, value)
  | .error fault => throw (.faulty fault)

/-- The key and the value of an item that may be missing. -/
def parseItem : Option String → Except OverrideError (String × Value)
  | some item => parseOverride item
  | none => .error .noItem

/-- The entries that items set; the last value of a key wins. -/
def parseOverrides (items : List (Option String)) : Except OverrideError (List (Value × Value)) := do
  let pairs ← items.mapM parseItem
  return Value.merge [] (pairs.map fun p => (.text p.1, p.2))

/-! ## Options -/

/-- What to analyse. -/
inductive Command where
  | duplicates
  | metrics
  deriving DecidableEq, Repr

/-- The name of a command. -/
def Command.name : Command → String
  | duplicates => "duplicates"
  | metrics => "metrics"

/-- The choices about a run that are made on the command line. -/
structure RunChoices where
  overrides : List (Option String)
  workers : Value
  timeout : Value
  noPrune : Bool

/-- The options of a run; metrics have neither a time limit nor pairs to leave out. -/
structure RunOptions where
  thresholds : List (Value × Value)
  workers : Value
  timeout : Option Value
  prune : Option Value

/-- Why there are no options. -/
inductive OptionsError where
  | badSection (error : SectionError)
  | override (error : OverrideError)
  deriving Repr

/-- The wording of an error. -/
def OptionsError.message : OptionsError → String
  | badSection e => e.message
  | override e => e.message

/-- What the run section says about a name. The section is looked at only here. -/
def runSetting (run : Value) (name : String) (default : Value) : Except OptionsError Value :=
  match run with
  | .map entries => .ok ((Value.lookup? entries (.text name)).getD default)
  | given => .error (.badSection (.noDocument given))

/-- A choice, or what the run section says when it is not made. -/
def chosen (choice run : Value) (name : String) : Except OptionsError Value :=
  match choice with
  | .null => runSetting run name .null
  | given => .ok given

/-- The options of a run: choices win over the document, overrides over its thresholds. -/
def buildOptions (command : Command) (choices : RunChoices) (document : Value) :
    Except OptionsError RunOptions := do
  let run ← (sectionOf document "run").mapError .badSection
  let thresholds ← (flattenThresholds document).mapError .badSection
  let overrides ← (parseOverrides choices.overrides).mapError .override
  let thresholds := Value.merge thresholds overrides
  let workers ← chosen choices.workers run "workers"
  match command with
  | .metrics => return ⟨thresholds, workers, none, none⟩
  | .duplicates =>
    let timeout ← chosen choices.timeout run "timeout"
    let prune ← if choices.noPrune then .ok (.bool false)
      else runSetting run "pruneCandidates" (.bool true)
    return ⟨thresholds, workers, some timeout, some prune⟩

namespace RunOptions

/-- The options as a value. -/
def toValue (o : RunOptions) : Value :=
  .ofFields ([("thresholds", .map o.thresholds), ("workers", o.workers)] ++
    (o.timeout.map fun v => ("timeout", v)).toList ++
    (o.prune.map fun v => ("prune_candidates", v)).toList)

/-- The loosely typed settings of a run in a workspace. -/
def settings (o : RunOptions) (workspace : String) : RawSettings :=
  { workspace := .text workspace
    thresholds := .map o.thresholds
    workers := o.workers
    timeout := o.timeout.getD .null
    prune := o.prune.getD (.bool true) }

end RunOptions
end CodeCensus
