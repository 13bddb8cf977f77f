import CodeCensus.Duplicate.Advice
import CodeCensus.Duplicate.Exact
import CodeCensus.Duplicate.Similar
import CodeCensus.Run.Failure
import CodeCensus.Run.Gather
import CodeCensus.Run.Host

/-!
# The duplicate report

Walks a workspace, analyses its source files, and reports exact and similar duplicates.

Contents: `analyzeSource`, `DuplicateReport`, `reportDuplicates`, `runDuplicates`, `findDuplicates`,
`findDuplicatesWithin`.
-/

namespace CodeCensus

/-- A successful duplicate report. -/
structure DuplicateReport where
  workspace : Path
  truncated : Bool
  summary : DuplicateSummary
  exact : List DuplicateGroup
  similar : List DuplicateGroup
  records : List FileRecord
  advice : List String

namespace DuplicateReport

/-- The report as a value. -/
def toValue (r : DuplicateReport) : Value :=
  .ofFields [
    ("success", .bool true),
    ("workspace", .text r.workspace.text),
    ("truncated", .bool r.truncated),
    ("summary", r.summary.toValue),
    ("exactDuplicates", .list (r.exact.map DuplicateGroup.toValue)),
    ("similarDuplicates", .list (r.similar.map DuplicateGroup.toValue)),
    ("fileAnalysis", .list (r.records.map FileRecord.summary)),
    ("recommendations", .texts r.advice)]

/-- The value in place of a report after a failure. -/
def failureValue (workspaceText error : String) : Value :=
  .ofFields [
    ("success", .bool false),
    ("error", .text error),
    ("workspace", .text workspaceText),
    ("truncated", .bool false),
    ("summary", .map []),
    ("exactDuplicates", .list []),
    ("similarDuplicates", .list []),
    ("fileAnalysis", .list []),
    ("recommendations", .list [])]

end DuplicateReport

/-- The record of a source file; files with fewer than `minLines` lines have none. -/
def analyzeSource (fs : FileSystem) (minLines : Nat) (root path : Path) :
    Except FileError (Option FileRecord) := do
  let info ← fs.stat path
  let content ← fs.readText path
  if (Text.splitLines content).length < minLines then return none
  return some (FileRecord.ofContent path (path.relativeText root)
    (duplicateLanguages.classify path) info.size minLines content)

/-- The part of a walk that found files. -/
def foundPaths (walked : List (Except FileError Path)) : List Path :=
  walked.filterMap fun
    | .ok path => some path
    | .error _ => none

/-- Notices about the entries of a walk that could not be inspected. -/
def walkNotices (walked : List (Except FileError Path)) : List Notice :=
  walked.filterMap fun
    | .ok _ => none
    | .error e => some (.notInspected e)

/-- A notice about a scan that stopped in the middle. -/
def stopNotices (kind : DuplicateKind) (outcome : ScanOutcome) : List Notice :=
  if outcome.stoppedEarly then [.scanStopped kind] else []

/-- Which files duplicate detection walks. -/
def duplicateWalk (settings : Settings) : WalkOptions :=
  ⟨duplicateLanguages.isSupported, defaultSkips, some (settings.thresholds.int .maxFileSize)⟩

/-- How pairs are compared under the given settings, with so many processors. -/
def similarityOptions (settings : Settings) (processors : Nat) : SimilarityOptions :=
  { threshold := settings.thresholds.get .similarityThreshold
    minTokens := settings.thresholds.int .minTokens
    prune := settings.prune
    workers := settings.maxWorkers processors }

/-- Reports on analysed files. -/
def reportDuplicates (host : RunHost) (settings : Settings) (root : Path) (totalFiles : Nat)
    (records : List FileRecord) : List Notice × DuplicateReport :=
  let exact := exactFileGroups records ++ exactBlockGroups records
  let options := similarityOptions settings host.processors
  let stop := host.stops settings.timeout
  let files := similarFiles options records stop ⟨0, false⟩ (host.turn .similarFile)
  let blocks := similarBlocks options records stop files.session (host.turn .similarBlock)
  let similar := files.groups ++ blocks.groups
  let summary := summarizeDuplicates totalFiles records (exact ++ similar)
  (stopNotices .similarFile files ++ stopNotices .similarBlock blocks,
    { workspace := root
      truncated := blocks.session.truncated
      summary, exact, similar, records
      advice := duplicateAdvice exact similar summary })

/-- Runs duplicate detection under accepted settings. -/
def runDuplicates (fs : FileSystem) (host : RunHost) (settings : Settings) :
    List Notice × Except RunFailure DuplicateReport :=
  match fs.resolveWorkspace settings.workspace.text settings.workspace with
  | .error e => ([], .error (.workspace e))
  | .ok root =>
    let walked := (fs.walk? (duplicateWalk settings) root).getD []
    let paths := foundPaths walked
    let minLines := (settings.thresholds.int .minLines).toNat
    let gathered := analyzeFiles root (analyzeSource fs minLines root) paths
    let notices := walkNotices walked ++ gathered.errors.map .fileSkipped
    match host.check settings.timeout 0 with
    | .error fault => (notices, .error (.number fault))
    | .ok _ =>
      let (stops, report) := reportDuplicates host settings root paths.length gathered.results
      (notices ++ stops, .ok report)

/-- The duplicate report of loosely typed settings, or the value in its place. -/
def findDuplicates (fs : FileSystem) (host : RunHost) (raw : RawSettings) : List Notice × Value :=
  match Settings.read raw with
  | (notices, .error e) =>
    let given := raw.workspace.display
    (notices ++ [settingsNotice given e], DuplicateReport.failureValue given e.message)
  | (notices, .ok settings) =>
    match runDuplicates fs host settings with
    | (more, .ok report) => (notices ++ more, report.toValue)
    | (more, .error failure) =>
      let given := settings.workspace.text
      (notices ++ more ++ [failure.notice given], DuplicateReport.failureValue given failure.message)

end CodeCensus
