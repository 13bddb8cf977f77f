import CodeCensus.Metrics.Aggregate

/-!
# Advice on metrics

The recommendations of a metrics report, a function of its figures alone, in a fixed order of topics.

Contents: one function per topic, `Aggregate.advice`, and `Aggregate.tryAdvice` for figures that may be beyond
the doubles.
-/

namespace CodeCensus
namespace Aggregate

/-- On large and very large files. -/
def sizeAdvice (a : Aggregate) : List String :=
  (if a.summary.veryLargeFiles = 0 then []
    else [natDigits a.summary.veryLargeFiles ++
      " very large files found - consider breaking them down into smaller, focused modules"]) ++
  (if a.summary.largeFiles = 0 then []
    else [natDigits a.summary.largeFiles ++
      " large files found - review for refactoring opportunities"])

/-- On complex files. -/
def complexityAdvice (a : Aggregate) (c : Complexity) : List String :=
  if c.highFiles.isEmpty then
    ["Excellent complexity metrics - all files below complexity threshold"]
  else
    let veryHigh := c.highFiles.filter fun m => m.complexityOver a.thresholds .veryHighComplexity
    (if veryHigh.isEmpty then []
      else [natDigits veryHigh.length ++ " files with very high complexity (>" ++
        (a.thresholds.get .veryHighComplexity).text ++ ") - immediate refactoring needed"]) ++
    [natDigits c.highFiles.length ++ " files with high complexity (>" ++
      (a.thresholds.get .highComplexity).text ++ ") - consider simplification"]

/-- On the number of languages. -/
def languageAdvice (a : Aggregate) : List String :=
  if 8 < a.languages.size then
    [natDigits a.languages.size ++
      " different languages detected - consider standardization for maintainability"]
  else []

/-- The mean complexity of each web language in use. -/
def webMeans (a : Aggregate) : List Double :=
  [Language.javascript, .typescript].filterMap fun l => (a.languages.get? l).map (·.averageComplexity)

/-- On the complexity of the web languages. -/
def webAdvice (a : Aggregate) : List String :=
  let means := a.webMeans
  if means.isEmpty then []
  else
    let mean := means.foldl (· + ·) Double.zero / Double.ofInt means.length
    if mean.compareInt? 5 == some .gt then
      ["JavaScript/TypeScript average complexity is " ++ mean.fixedText 1 ++
        " - consider using more functional programming patterns"]
    else []

/-- The share of comment lines. -/
def commentRatio (a : Aggregate) : Double :=
  if a.summary.totalLines = 0 then Double.zero
  else Double.ofIntRatio a.summary.totalCommentLines a.summary.totalLines

/-- On the share of comment lines. -/
def commentAdvice (a : Aggregate) : List String :=
  let ratio := a.commentRatio
  let percent := intText (ratio * Double.ofInt 100).roundInt
  if ratio.lt (.ofDecimal false 5 (-2)) then
    ["Very low comment ratio (" ++ percent ++ "%) - add JSDoc/docstrings for better maintainability"]
  else if ratio.lt (.ofDecimal false 15 (-2)) then
    ["Low comment ratio (" ++ percent ++ "%) - consider adding more documentation"]
  else ["Good documentation ratio (" ++ percent ++ "%)"]

/-- The number of functions per thousand lines; the integer zero without lines. -/
def functionDensity (a : Aggregate) (c : Complexity) : Double :=
  if a.summary.totalLines = 0 then Double.zero
  else Double.ofIntRatio c.totalFunctions a.summary.totalLines * Double.ofInt 1000

/-- On the number of functions per line. -/
def densityAdvice (a : Aggregate) (c : Complexity) : List String :=
  let density := a.functionDensity c
  if density.compareInt? 5 == some .lt then
    ["Low function density (" ++ density.fixedText 1 ++
      " functions per 1000 lines) - consider breaking down large functions"]
  else []

/-- On configuration files that outnumber code files. -/
def balanceAdvice (a : Aggregate) : List String :=
  let code := a.filesIn [.javascript, .typescript, .python, .java]
  let config := a.filesIn [.json, .yaml, .config]
  if code < config then
    ["More configuration files (" ++ natDigits config ++ ") than code files (" ++ natDigits code ++
      ") - review if all configs are necessary"]
  else []

/-- On the mean size of a file. -/
def averageAdvice (a : Aggregate) : List String :=
  if a.summary.totalFiles = 0 then []
  else
    let mean := Double.ofIntRatio a.summary.totalSizeBytes a.summary.totalFiles /
      Double.ofInt 1024
    if mean.compareInt? 50 == some .gt then
      ["Average file size is " ++ mean.fixedText 1 ++ "KB - consider optimizing large files"]
    else []

/-- On shell scripts. -/
def shellAdvice (a : Aggregate) : List String :=
  if a.filesIn [.shell] = 0 then []
  else ["Shell scripts detected - ensure proper input validation and security practices"]

/-- What every metrics report ends with. -/
def closingAdvice : List String := [
  "Regular code metrics monitoring helps maintain code quality",
  "Consider setting up automated code quality gates in CI/CD",
  "Track metrics over time to identify trends and improvements",
  "Implement unit tests for high-complexity functions",
  "Consider code reviews for files with complexity > 15"]

/-- The recommendations of a metrics report. -/
def advice (a : Aggregate) (c : Complexity) : List String :=
  a.sizeAdvice ++ a.complexityAdvice c ++ a.languageAdvice ++ a.webAdvice ++ a.commentAdvice ++
    a.densityAdvice c ++ a.balanceAdvice ++ a.averageAdvice ++ a.shellAdvice ++ closingAdvice

/-- The recommendations, unless a figure in them is beyond the doubles: the share of comment lines or its
    percentage, the number of functions per line, or the mean size of a file. -/
def tryAdvice (a : Aggregate) (c : Complexity) : Except NumberFault (List String) := do
  let lines := Number.int a.summary.totalLines
  if a.summary.totalLines ≠ 0 then
    let ratio ← (Number.int a.summary.totalCommentLines).quotient lines
    let _ ← nearestInt (ratio * Double.ofInt 100)
    let _ ← (Number.int c.totalFunctions).quotient lines
  if a.summary.totalFiles ≠ 0 then
    let _ ← (Number.int a.summary.totalSizeBytes).quotient (.int a.summary.totalFiles)
  return a.advice c

end Aggregate
end CodeCensus
