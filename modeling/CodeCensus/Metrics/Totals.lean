import CodeCensus.Metrics.File

/-!
# Totals of a language

Running totals over the files of one language, and the running mean of their complexity.

Contents: `runningMean`, `LanguageTotals`, `LanguageTotals.add`, `LanguageTotals.tryAdd`,
`LanguageTotals.toValue`.
-/

namespace CodeCensus

/-- The mean of `count` values, from the mean of all but the last and the last `value`. -/
def runningMean {α : Type} [Add α] [Mul α] [Div α] (ofInt : Int → α) (mean : α) (count : Nat)
    (value : Int) : α :=
  (mean * ofInt (count - 1) + ofInt value) / ofInt count

/-- Running totals over files. -/
structure LanguageTotals where
  files : Nat
  lines : Int
  codeLines : Int
  commentLines : Int
  blankLines : Int
  sizeBytes : Int
  functions : Int
  classes : Int
  averageComplexity : Double
  deriving Repr

namespace LanguageTotals

/-- The totals of no files. -/
def zero : LanguageTotals := ⟨0, 0, 0, 0, 0, 0, 0, 0, Double.zero⟩

/-- The totals with one more file. -/
def add (t : LanguageTotals) (m : FileMetrics) : LanguageTotals :=
  { files := t.files + 1
    lines := t.lines + m.lines
    codeLines := t.codeLines + m.codeLines
    commentLines := t.commentLines + m.commentLines
    blankLines := t.blankLines + m.blankLines
    sizeBytes := t.sizeBytes + m.sizeBytes
    functions := t.functions + m.functions
    classes := t.classes + m.classes
    averageComplexity :=
      runningMean Double.ofInt t.averageComplexity (t.files + 1) m.complexity }

/-- The totals with one more file, unless its complexity is beyond the doubles. -/
def tryAdd (t : LanguageTotals) (m : FileMetrics) : Except NumberFault LanguageTotals := do
  let _ ← (Number.int m.complexity).toDouble
  return t.add m

/-- The entry of a language in a report. -/
def toValue (t : LanguageTotals) : Value :=
  .ofFields [
    ("files", .nat t.files),
    ("lines", .int t.lines),
    ("codeLines", .int t.codeLines),
    ("commentLines", .int t.commentLines),
    ("blankLines", .int t.blankLines),
    ("sizeBytes", .int t.sizeBytes),
    ("functions", .int t.functions),
    ("classes", .int t.classes),
    ("averageComplexity", .float (t.averageComplexity.roundPlaces 2))]

end LanguageTotals
end CodeCensus
