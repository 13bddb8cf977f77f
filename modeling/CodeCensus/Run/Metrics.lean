import CodeCensus.Metrics.Advice
import CodeCensus.Run.Duplicates

/-!
# The metrics report

Walks a workspace, measures every file that can be read, and reports totals, languages, large and
complex files.

Contents: `measureFile`, `MetricsReport`, `runMetrics`, `analyzeMetrics`.
-/

namespace CodeCensus

/-- A successful metrics report. -/
structure MetricsReport where
  workspace : Path
  aggregate : Aggregate
  complexity : Complexity
  entries : List Value
  advice : List String

namespace MetricsReport

/-- The report as a value. -/
def toValue (r : MetricsReport) : Value :=
  .ofFields [
    ("success", .bool true),
    ("workspace", .text r.workspace.text),
    ("summary", r.aggregate.summary.toValue),
    ("languages", r.aggregate.languagesValue),
    ("largeFiles", r.aggregate.largeValue),
    ("fileMetrics", .list r.entries),
    ("complexity", r.complexity.toValue r.aggregate.thresholds),
    ("recommendations", .texts r.advice)]

/-- The value in place of a report after a failure. -/
def failureValue (workspaceText error : String) : Value :=
  .ofFields [
    ("success", .bool false),
    ("error", .text error),
    ("workspace", .text workspaceText),
    ("summary", .map []),
    ("languages", .map []),
    ("largeFiles", .list []),
    ("fileMetrics", .list []),
    ("complexity", .ofFields [
      ("averageComplexity", .int 0),
      ("highComplexityFiles", .list []),
      ("totalFunctions", .int 0)]),
    ("recommendations", .list [])]

end MetricsReport

/-- The metrics of the file at a path. -/
def measureFile (fs : FileSystem) (table : LanguageTable) (root path : Path) :
    Except FileError FileMetrics := do
  let info ← fs.stat path
  let content ← fs.readText path
  return FileMetrics.ofContent table path root info.size (secondsOf info.modified) content

/-- Metrics take in every file. -/
def metricsWalk : WalkOptions := ⟨fun _ => true, defaultSkips, none⟩

/-- Reports on measured files; fails when a file has a time that is no date. -/
def reportMetrics (settings : Settings) (root : Path) (files : List FileMetrics) :
    Except RunFailure MetricsReport :=
  let aggregate := Aggregate.ofFiles settings.thresholds files
  let complexity := aggregate.complexity
  match files.mapM FileMetrics.summary with
  | .error fault => .error (.timestamp fault)
  | .ok entries => .ok ⟨root, aggregate, complexity, entries, aggregate.advice complexity⟩

/-- Runs code metrics under accepted settings. -/
def runMetrics (fs : FileSystem) (settings : Settings) :
    List Notice × Except RunFailure MetricsReport :=
  match fs.resolveWorkspace settings.workspace.text settings.workspace with
  | .error e => ([], .error (.workspace e))
  | .ok root =>
    let walked := (fs.walk? metricsWalk root).getD []
    let gathered := analyzeFiles root
      (fun path => (measureFile fs metricsLanguages root path).map some) (foundPaths walked)
    (walkNotices walked ++ gathered.errors.map .fileSkipped,
      reportMetrics settings root gathered.results)

/-- The metrics report of loosely typed settings, or the value in its place. -/
def analyzeMetrics (fs : FileSystem) (raw : RawSettings) : List Notice × Value :=
  match Settings.read raw with
  | (notices, .error e) =>
    let given := raw.workspace.display
    (notices ++ [settingsNotice given e], MetricsReport.failureValue given e.message)
  | (notices, .ok settings) =>
    match runMetrics fs settings with
    | (more, .ok report) => (notices ++ more, report.toValue)
    | (more, .error failure) =>
      let given := settings.workspace.text
      (notices ++ more ++ [failure.notice given], MetricsReport.failureValue given failure.message)

end CodeCensus
