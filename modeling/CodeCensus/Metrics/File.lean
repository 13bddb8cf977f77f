import CodeCensus.Calendar.Timestamp
import CodeCensus.Language.Tables
import CodeCensus.Number.Basic
import CodeCensus.Source.Lines

/-!
# Measures of a file

Size, kinds of lines, declarations and complexity of one file, and how they are shown in a report.

Contents: `FileMetrics`, `FileMetrics.sizeKB`, `FileMetrics.trySizeKB`, `FileMetrics.summary`, `ContentMeasure`,
`measureContent`.
-/

namespace CodeCensus

/-- A file measured for size, comments, structure and complexity. -/
structure FileMetrics where
  path : Path
  relativePath : String
  language : Language
  extension : String
  sizeBytes : Int
  lines : Int
  codeLines : Int
  commentLines : Int
  blankLines : Int
  functions : Int
  classes : Int
  complexity : Int
  modified : Double
  deriving Repr

namespace FileMetrics

/-- The size in units of 1024 bytes, to two decimal places. -/
def sizeKB (m : FileMetrics) : Double := (Double.ofIntRatio m.sizeBytes 1024).roundPlaces 2

/-- The size in units of 1024 bytes, unless it is beyond the doubles. -/
def trySizeKB (m : FileMetrics) : Except NumberFault Double := do
  let size ← (Number.int m.sizeBytes).quotient (.int 1024)
  return size.roundPlaces 2

/-- The entry of a file in a report. -/
def summary (m : FileMetrics) : Except TimestampFault Value := do
  let modified ← timestampText m.modified
  return .ofFields [
    ("path", .text m.path.text),
    ("relativePath", .text m.relativePath),
    ("language", .text m.language.tag),
    ("extension", .text m.extension),
    ("sizeBytes", .int m.sizeBytes),
    ("sizeKB", .float m.sizeKB),
    ("lines", .int m.lines),
    ("codeLines", .int m.codeLines),
    ("commentLines", .int m.commentLines),
    ("blankLines", .int m.blankLines),
    ("functions", .int m.functions),
    ("classes", .int m.classes),
    ("complexity", .int m.complexity),
    ("lastModified", .text modified)]

end FileMetrics

/-- What the content of a file measures. -/
structure ContentMeasure where
  lines : Nat
  kinds : LineCounts
  functions : Except BadPattern Nat
  classes : Except BadPattern Nat
  complexity : Nat

/-- The measures of a content under the rules of a language. -/
def measureContent (profile : Profile) (content : String) : ContentMeasure :=
  let lines := Text.splitLines content
  { lines := lines.length
    kinds := countLines profile lines
    functions := profile.functions content
    classes := profile.classes content
    complexity := profile.complexity content }

/-- A count, with an unreadable pattern counting nothing. -/
def countOrZero : Except BadPattern Nat → Nat
  | .ok n => n
  | .error _ => 0

namespace ContentMeasure

/-- The patterns that could not be read. -/
def badPatterns (m : ContentMeasure) : List BadPattern :=
  let one : Except BadPattern Nat → List BadPattern
    | .ok _ => []
    | .error bad => [bad]
  one m.functions ++ one m.classes

end ContentMeasure

/-- The metrics of a file with the given content. -/
def FileMetrics.ofContent (table : LanguageTable) (path root : Path) (size : Nat) (modified : Double)
    (content : String) : FileMetrics :=
  let language := table.classify path
  let m := measureContent (table.profile language) content
  { path
    relativePath := path.relativeText root
    language
    extension := path.suffix
    sizeBytes := size
    lines := m.lines
    codeLines := m.kinds.code
    commentLines := m.kinds.comment
    blankLines := m.kinds.blank
    functions := countOrZero m.functions
    classes := countOrZero m.classes
    complexity := m.complexity
    modified }

end CodeCensus
