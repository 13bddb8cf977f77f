import CodeCensus.Metrics.Totals
import CodeCensus.Number.Total
import CodeCensus.OrderedMap
import CodeCensus.Settings.Threshold

/-!
# Metrics of a workspace

The files of a run are added one by one; each goes into the summary, into the totals of its language
and, when a limit is passed, into the list of large files.

Contents:
* `FileMetrics.isLarge`, `FileMetrics.isVeryLarge`, `FileMetrics.largeReason`;
* `Aggregate`, `Aggregate.add`, and its sections as values;
* `Complexity`, `Aggregate.complexity`;
* `Aggregate.tryAdd`, `Aggregate.tryComplexity` — the same for figures that may be beyond the doubles.
-/

namespace CodeCensus

namespace FileMetrics

/-- The number of lines passes a limit. -/
def linesOver (m : FileMetrics) (t : Thresholds) (key : ThresholdKey) : Bool :=
  (t.get key).lt (.int m.lines)

/-- The size passes a limit. -/
def sizeOver (m : FileMetrics) (t : Thresholds) (key : ThresholdKey) : Bool :=
  (t.get key).lt (.double m.sizeKB)

/-- The complexity passes a limit. -/
def complexityOver (m : FileMetrics) (t : Thresholds) (key : ThresholdKey) : Bool :=
  (t.get key).lt (.int m.complexity)

/-- The file passes a limit for large files. -/
def isLarge (m : FileMetrics) (t : Thresholds) : Bool :=
  m.linesOver t .largeFileLines || m.sizeOver t .largeFileSizeKB

/-- The file passes a limit for very large files. -/
def isVeryLarge (m : FileMetrics) (t : Thresholds) : Bool :=
  m.linesOver t .veryLargeFileLines || m.sizeOver t .veryLargeFileSizeKB

/-- A line count with the limit that it passes. -/
def linesReason (m : FileMetrics) (t : Thresholds) (label : String) (key : ThresholdKey) : String :=
  label ++ " file (" ++ intText m.lines ++ " lines > " ++ (t.get key).text ++ ")"

/-- A size with the limit that it passes. -/
def sizeReason (m : FileMetrics) (t : Thresholds) (label : String) (key : ThresholdKey) : String :=
  label ++ " size (" ++ m.sizeKB.text ++ "KB > " ++ (t.get key).text ++ "KB)"

/-- Why a file is large: its lines and its size, each with the highest limit that it passes. -/
def largeReasons (m : FileMetrics) (t : Thresholds) : List String :=
  (if m.linesOver t .veryLargeFileLines then [m.linesReason t "Very large" .veryLargeFileLines]
    else if m.linesOver t .largeFileLines then [m.linesReason t "Large" .largeFileLines]
    else []) ++
  (if m.sizeOver t .veryLargeFileSizeKB then [m.sizeReason t "Very large" .veryLargeFileSizeKB]
    else if m.sizeOver t .largeFileSizeKB then [m.sizeReason t "Large" .largeFileSizeKB]
    else [])

/-- Why a file is large, in one line. -/
def largeReason (m : FileMetrics) (t : Thresholds) : String :=
  String.intercalate ", " (m.largeReasons t)

/-- The entry of a large file in a report. -/
def largeEntry (m : FileMetrics) (t : Thresholds) : Value :=
  .ofFields [
    ("path", .text m.relativePath),
    ("lines", .int m.lines),
    ("sizeKB", .float m.sizeKB),
    ("language", .text m.language.tag),
    ("reason", .text (m.largeReason t))]

end FileMetrics

/-- Totals over all files of a run. -/
structure Summary where
  totalFiles : Nat
  totalLines : Int
  totalCodeLines : Int
  totalCommentLines : Int
  totalBlankLines : Int
  totalSizeBytes : Int
  largeFiles : Nat
  veryLargeFiles : Nat
  deriving DecidableEq, Repr

namespace Summary

/-- The totals of no files. -/
def zero : Summary := ⟨0, 0, 0, 0, 0, 0, 0, 0⟩

/-- The totals with one more file. -/
def add (s : Summary) (t : Thresholds) (m : FileMetrics) : Summary :=
  { totalFiles := s.totalFiles + 1
    totalLines := s.totalLines + m.lines
    totalCodeLines := s.totalCodeLines + m.codeLines
    totalCommentLines := s.totalCommentLines + m.commentLines
    totalBlankLines := s.totalBlankLines + m.blankLines
    totalSizeBytes := s.totalSizeBytes + m.sizeBytes
    largeFiles := s.largeFiles + (if m.isLarge t then 1 else 0)
    veryLargeFiles := s.veryLargeFiles + (if m.isVeryLarge t then 1 else 0) }

/-- The summary section of a report. -/
def toValue (s : Summary) : Value :=
  .ofFields [
    ("totalFiles", .nat s.totalFiles),
    ("totalLines", .int s.totalLines),
    ("totalCodeLines", .int s.totalCodeLines),
    ("totalCommentLines", .int s.totalCommentLines),
    ("totalBlankLines", .int s.totalBlankLines),
    ("totalSizeBytes", .int s.totalSizeBytes),
    ("largeFiles", .nat s.largeFiles),
    ("veryLargeFiles", .nat s.veryLargeFiles)]

end Summary

/-- The metrics of the files added so far. -/
structure Aggregate where
  thresholds : Thresholds
  files : List FileMetrics
  languages : OrderedMap Language LanguageTotals
  largeFiles : List FileMetrics
  summary : Summary

/-- Files whose complexity passes the limit, and the mean complexity per function. -/
structure Complexity where
  average : Number
  highFiles : List FileMetrics
  totalFunctions : Int

namespace Aggregate

/-- No files yet. -/
def empty (t : Thresholds) : Aggregate := ⟨t, [], .empty, [], .zero⟩

/-- Takes in one more file. -/
def add (a : Aggregate) (m : FileMetrics) : Aggregate :=
  { a with
    files := a.files ++ [m]
    languages := a.languages.upsert m.language (LanguageTotals.zero.add m) (·.add m)
    largeFiles := if m.isLarge a.thresholds then a.largeFiles ++ [m] else a.largeFiles
    summary := a.summary.add a.thresholds m }

/-- Takes in one more file, unless its complexity or its size is beyond the doubles. -/
def tryAdd (a : Aggregate) (m : FileMetrics) : Except NumberFault Aggregate := do
  let _ ← ((a.languages.get? m.language).getD .zero).tryAdd m
  let _ ← m.trySizeKB
  return a.add m

/-- The metrics of a list of files. -/
def ofFiles (t : Thresholds) (files : List FileMetrics) : Aggregate := files.foldl add (empty t)

/-- The language section of a report. -/
def languagesValue (a : Aggregate) : Value :=
  .ofFields (a.languages.entries.map fun e => (e.1.tag, e.2.toValue))

/-- The section of large files. -/
def largeValue (a : Aggregate) : Value := .list (a.largeFiles.map fun m => m.largeEntry a.thresholds)

/-- The number of files in any of the given languages. -/
def filesIn (a : Aggregate) (languages : List Language) : Nat :=
  sumCounts (languages.map fun l => ((a.languages.get? l).map (·.files)).getD 0)

/-- Complexity over all files. The mean is taken over functions, and is the integer zero without any. -/
def complexity (a : Aggregate) : Complexity :=
  let total := sumIntegers (a.files.map (·.complexity))
  let functions := sumIntegers (a.files.map (·.functions))
  { average :=
      if functions = 0 then .int 0 else .double ((Double.ofIntRatio total functions).roundPlaces 2)
    highFiles := a.files.filter fun m => m.complexityOver a.thresholds .highComplexity
    totalFunctions := functions }

/-- Complexity over all files, unless the mean is beyond the doubles. -/
def tryComplexity (a : Aggregate) : Except NumberFault Complexity := do
  let c := a.complexity
  if c.totalFunctions ≠ 0 then
    let _ ← (Number.int (sumIntegers (a.files.map (·.complexity)))).quotient (.int c.totalFunctions)
  return c

end Aggregate

/-- How far a file passes the limits of complexity. -/
def FileMetrics.severity (m : FileMetrics) (t : Thresholds) : String :=
  if m.complexityOver t .veryHighComplexity then "very-high" else "high"

/-- The entry of a complex file in a report. -/
def FileMetrics.complexEntry (m : FileMetrics) (t : Thresholds) : Value :=
  .ofFields [
    ("path", .text m.relativePath),
    ("complexity", .int m.complexity),
    ("functions", .int m.functions),
    ("language", .text m.language.tag),
    ("severity", .text (m.severity t))]

/-- The complexity section of a report. -/
def Complexity.toValue (c : Complexity) (t : Thresholds) : Value :=
  .ofFields [
    ("averageComplexity", c.average.toValue),
    ("highComplexityFiles", .list (c.highFiles.map fun m => m.complexEntry t)),
    ("totalFunctions", .int c.totalFunctions)]

end CodeCensus
