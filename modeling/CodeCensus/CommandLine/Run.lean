import CodeCensus.CommandLine.Console
import CodeCensus.Run.Metrics
import CodeCensus.Settings.Starter
import CodeCensus.Value.Json

/-!
# Running a command line

From the words of a command line to what the program prints, says and writes.

Contents:
* `formatReport`, `writeOutput`, `analyzeOnce` — one analysis and its output;
* `loadDocument`, `choicesOf` — the settings of a run;
* `watchRules`, `consoleHost` — analysing again on changes;
* `startCommandLine`, `runCommandLine`.
-/

namespace CodeCensus

/-! ## One analysis -/

/-- What settles the analyses of a command line. -/
structure Plan where
  command : Command
  arguments : Arguments
  options : RunOptions
  host : RunHost

/-- The report of an analysis. -/
def Plan.report (plan : Plan) (fs : FileSystem) : List Notice × Value :=
  let raw := plan.options.settings plan.arguments.path
  match plan.command with
  | .duplicates => findDuplicates fs plan.host raw
  | .metrics => analyzeMetrics fs raw

/-- The fields that a summary keeps, in order. -/
def summaryFields : List String := ["success", "error", "workspace", "truncated", "summary"]

/-- The part of a report that a summary keeps. -/
def summaryOf (report : Value) : Value :=
  .ofFields (summaryFields.filterMap fun name => (report.get? name).map fun v => (name, v))

/-- An option that is set to something other than the empty text. -/
def filled (given : Option String) : Option String := given.filter fun s => !s.isEmpty

/-- A report in the form that was asked for. -/
def formatReport (fs : FileSystem) (command : Command) (a : Arguments) (report : Value) :
    List Notice × Except Escape String :=
  match a.format with
  | .markdown =>
    let (notices, result) :=
      fs.renderReport command.name report a.summary ((filled a.templateDir).map Path.parse)
    (notices, result.mapError .template)
  | .json => ([], .ok (if a.summary then summaryOf report else report).jsonText)

/-- A text with a line end. -/
def withLineEnd (text : String) : String :=
  if text.toList.getLast? = some '\n' then text else text ++ "\n"

/-- Puts the output where it was asked for. -/
def writeOutput (c : Console) (a : Arguments) (text : String) : Console × Except Escape Unit :=
  match filled a.output with
  | none => (c.print text, .ok ())
  | some file =>
    let content := withLineEnd text
    match c.fs.write file content.toUTF8 with
    | .error fault => (c, .error (.output file fault))
    | .ok (place, fs) =>
      let c := { c with fs, written := c.written ++ [WrittenFile.mk place content] }
      (c.mention a.verbose (.outputWritten file), .ok ())

/-- Analyses the workspace and puts the report out. -/
def analyzeOnce (plan : Plan) (c : Console) : Console × Except Escape Value :=
  let (notices, report) := plan.report c.fs
  let c := c.log notices
  match formatReport c.fs plan.command plan.arguments report with
  | (more, .error e) => (c.log more, .error e)
  | (more, .ok text) =>
    match writeOutput (c.log more) plan.arguments text with
    | (c, .error e) => (c, .error e)
    | (c, .ok _) => (c, .ok report)

/-- The analysis succeeded. -/
def succeeded (report : Value) : Bool := ((report.get? "success").map Value.truthy).getD false

/-! ## Settings -/

/-- The fault is about the text of a single value. -/
def Yaml.Fault.isValueFault : Yaml.Fault → Bool
  | .badInteger .. | .badFloat _ | .badDate _ | .badOffset _ | .badCodePoint => true
  | _ => false

/-- A document that cannot be used is reported when it is malformed or its settings are rejected. -/
def DocumentError.isReported : DocumentError → Bool
  | .faulty .malformed => true
  | .rejected _ => true
  | _ => false

/-- The settings document of a command line, or how the run ends without one. -/
def loadDocument (c : Console) (a : Arguments) : Console × Except Ending Value :=
  match filled a.config with
  | none => (c, .ok defaultDocument)
  | some name =>
    let path := Path.parse name
    match c.fs.exists? path with
    | .error fault => (c, .error (.escaped (.path path fault)))
    | .ok false => (c.say (.configMissing path), .error (.exit 1))
    | .ok true =>
      match c.fs.loadSettings path with
      | (notices, .ok document) =>
        ((c.log notices).mention a.verbose (.configLoaded path), .ok document)
      | (notices, .error e) =>
        let c := c.log notices
        if e.isReported then (c.say (.configInvalid path e), .error (.exit 1))
        else (c, .error (.escaped (.document e)))

/-- The choices about the run on a command line. -/
def choicesOf (a : Arguments) : RunChoices :=
  { overrides := a.thresholds
    workers := a.workers
    timeout := a.timeout
    noPrune := a.noPrune }

/-! ## Watching -/

/-- The seconds between two runs of a watched workspace. -/
def watchDebounce : Number := .double (.ofInt 2)

/-- The files whose changes matter: those that the analysis reads, and never its own output. -/
def watchAccepts (command : Command) (output : Option Path) (path : Path) : Bool :=
  output ≠ some path && (command = .metrics || duplicateLanguages.isSupported path)

/-- Where the output file really lies, if there is one. -/
def Plan.outputPath? (plan : Plan) (fs : FileSystem) : Option Path :=
  (filled plan.arguments.output).map fun file => fs.realPath (Path.parse file)

/-- What to watch for after a report on a workspace. -/
def watchRules (plan : Plan) (fs : FileSystem) (root : Path) : WatchRules :=
  ⟨root, watchAccepts plan.command (plan.outputPath? fs), defaultSkips⟩

/-- A console as the host of a watch loop, with a given clock. -/
def consoleHost (plan : Plan) (now : Console → Double) : WatchHost Console :=
  { now
    say := fun m c => (c.log m.notices).say (.watch m)
    observe := fun _ c => c
    rerun := fun state c =>
      match analyzeOnce plan c with
      | (c, .ok _) => (state, c, none)
      | (c, .error e) => (state, c, some e.message) }

/-! ## Command lines -/

/-- The workspace that a report names. -/
def reportedWorkspace (report : Value) : Path :=
  Path.parse (((report.get? "workspace").map Value.display).getD "")

/-- What a command line comes to: an end, or a workspace that is watched from then on. -/
inductive Started where
  | ended (ending : Ending)
  | watching (plan : Plan) (root : Path)

/-- The end of a run with a usage error. -/
def usageEnd (c : Console) (e : UsageError) : Console × Started :=
  (c.say (.usage e), .ended (.exit 2))

/-- The end of a run whose options cannot be built. -/
def optionsEnd (c : Console) (e : OptionsError) : Console × Started :=
  match e with
  | .override (.notAssignment item) =>
    usageEnd c (.badOverride (OverrideError.notAssignment item).message)
  | .override (.faulty fault) =>
    if fault.isValueFault then usageEnd c (.badOverride fault.message)
    else (c, .ended (.escaped (.override fault)))
  | e => (c, .ended (.escaped (.options e)))

/-- Runs the first analysis of a plan. -/
def startPlan (plan : Plan) (c : Console) : Console × Started :=
  match analyzeOnce plan c with
  | (c, .error e) => (c, .ended (.escaped e))
  | (c, .ok report) =>
    if !succeeded report then (c, .ended (.exit 1))
    else if plan.arguments.watch then (c, .watching plan (reportedWorkspace report))
    else (c, .ended (.exit 0))

/-- Starts a command under the settings of a command line. -/
def startCommand (host : RunHost) (a : Arguments) (command : Command) (c : Console) :
    Console × Started :=
  match loadDocument c a with
  | (c, .error ending) => (c, .ended ending)
  | (c, .ok document) =>
    match buildOptions command (choicesOf a) document with
    | .error e => optionsEnd c e
    | .ok options => startPlan ⟨command, a, options, host⟩ c

/-- Writes the built-in templates into a directory. -/
def initTemplates (c : Console) (directory : String) : Console × Started :=
  let (written, fs, error) := c.fs.writeTemplates (Path.parse directory)
  let c := { c with fs, written := c.written ++ written }
  match error with
  | some e => (c, .ended (.escaped (.template e)))
  | none => (c.say (.templatesWritten directory), .ended (.exit 0))

/-- Starts with the arguments of a command line. -/
def startArguments (host : RunHost) (a : Arguments) (c : Console) : Console × Started :=
  if a.initConfig then (c.print starterDocument, .ended (.exit 0))
  else
    match filled a.initTemplates, a.command with
    | some directory, _ => initTemplates c directory
    | none, none => usageEnd c .commandRequired
    | none, some command => startCommand host a command c

/-- A summary of the usage. -/
def helpText : String :=
  "usage: " ++ programName ++ " [duplicates | metrics] [path] [options]\n\noptions:\n" ++
    String.intercalate "\n" (CliOption.all.map fun o =>
      "  " ++ String.intercalate ", " o.spellings ++ (if o.takesValue then " VALUE" else ""))

/-- Starts a command line. -/
def startCommandLine (host : RunHost) (argv : List String) (fs : FileSystem) : Console × Started :=
  let c := Console.fresh fs
  match parseArguments argv with
  | .error (.usage e) => usageEnd c e
  | .error .help => (c.print helpText, .ended (.exit 0))
  | .error .version => (c.print (programName ++ " " ++ programVersion), .ended (.exit 0))
  | .ok a => startArguments host a c

/-- Runs a command line to its end. While a workspace is watched, `now` is the clock and `ticks` is what
    happens. -/
def runCommandLine (host : RunHost) (now : Console → Double)
    (ticks : List (List (TickAction Console))) (argv : List String) (fs : FileSystem) :
    Console × Ending :=
  match startCommandLine host argv fs with
  | (c, .ended ending) => (c, ending)
  | (c, .watching plan root) =>
    let w := watchLoop (consoleHost plan now) (watchRules plan c.fs root) watchDebounce ticks c
    (w.world, .exit 0)

end CodeCensus
