import CodeCensus.Duplicate.Group
import CodeCensus.Number.Total
import Std.Data.HashSet

/-!
# Summary and advice on duplicates

The figures of a duplicate report and its recommendations, functions of the groups and records alone.

Contents: `DuplicateSummary`, `summarizeDuplicates`, `trySummarizeDuplicates`, `duplicateAdvice`.
-/

namespace CodeCensus

/-- The figures of a duplicate report. -/
structure DuplicateSummary where
  totalFiles : Int
  analyzedFiles : Nat
  duplicateBlocks : Nat
  duplicateLines : Int
  percentage : Number
  affectedFiles : Nat
  deriving Repr

/-- The paths of all locations of the groups. -/
def memberPaths (groups : List DuplicateGroup) : List String :=
  groups.flatMap fun g => g.members.map (·.path)

/-- The figures of the given groups. The percentage is taken over the lines of analysed files. -/
def summarizeDuplicates (totalFiles : Int) (records : List FileRecord)
    (groups : List DuplicateGroup) : DuplicateSummary :=
  let duplicateLines := sumIntegers (groups.map (·.duplicateLines))
  { totalFiles
    analyzedFiles := records.length
    duplicateBlocks := groups.length
    duplicateLines
    percentage := countPercentage duplicateLines (sumIntegers (records.map (·.lines)))
    affectedFiles := (Std.HashSet.ofList (memberPaths groups)).size }

/-- The figures of the given groups, unless the share of duplicate lines is beyond the doubles. -/
def trySummarizeDuplicates (totalFiles : Int) (records : List FileRecord) (groups : List DuplicateGroup) :
    Except NumberFault DuplicateSummary := do
  let summary := summarizeDuplicates totalFiles records groups
  let share ← percentage (.int summary.duplicateLines) (.int (sumIntegers (records.map (·.lines)))) 2
  return { summary with percentage := share }

/-- The summary section of a report. -/
def DuplicateSummary.toValue (s : DuplicateSummary) : Value :=
  .ofFields [
    ("totalFiles", .int s.totalFiles),
    ("analyzedFiles", .nat s.analyzedFiles),
    ("duplicateBlocks", .nat s.duplicateBlocks),
    ("duplicateLines", .int s.duplicateLines),
    ("duplicatePercentage", s.percentage.toValue),
    ("affectedFiles", .nat s.affectedFiles)]

/-- A count with what it means, if there is anything to count. -/
def countAdvice (count : Nat) (meaning : String) : List String :=
  if count = 0 then [] else [natDigits count ++ " " ++ meaning]

/-- On the share of duplicate lines. -/
def rateAdvice (rate : Number) : String :=
  if (Number.int 20).lt rate then
    "High duplication rate (" ++ rate.text ++ "%) - significant refactoring opportunity"
  else if (Number.int 10).lt rate then
    "Moderate duplication rate (" ++ rate.text ++ "%) - consider refactoring"
  else if (Number.int 0).lt rate then
    "Low duplication rate (" ++ rate.text ++ "%) - good code reuse practices"
  else "No significant code duplication detected - excellent code organization"

/-- What is added when anything was found. -/
def foundAdvice : List String := [
  "Consider extracting common code into shared modules or libraries",
  "Implement code review processes to catch duplication early",
  "Use automated tools to monitor code duplication in CI/CD pipeline"]

/-- The recommendations of a duplicate report: on exact groups, similar groups, the rate, and in
    general. -/
def duplicateAdvice (exact similar : List DuplicateGroup) (summary : DuplicateSummary) :
    List String :=
  let exactFiles := (exact.filter fun g => g.kind = .exactFile).length
  let similarFiles := (similar.filter fun g => g.kind = .similarFile).length
  countAdvice exactFiles "exact duplicate files found - consider removing or consolidating" ++
  countAdvice (exact.length - exactFiles)
    "exact duplicate code blocks found - extract into shared functions" ++
  countAdvice similarFiles "similar files found - review for potential consolidation" ++
  countAdvice (similar.length - similarFiles)
    "similar code blocks found - consider refactoring into shared utilities" ++
  [rateAdvice summary.percentage] ++
  (if exact.isEmpty && similar.isEmpty then [] else foundAdvice) ++
  ["Regular duplicate code analysis helps maintain code quality",
    "Aim for DRY (Don't Repeat Yourself) principles in code design"]

end CodeCensus
