import CodeCensus.Number.Basic
import CodeCensus.Value.Digits

/-!
# Thresholds

The ten limits that an analysis obeys: what values each of them takes, and how a value is checked.

Contents:
* `ThresholdKey`, its rules and its default;
* `duplicateTable`, `metricsTable` — the thresholds of each analysis, as settings documents start with them;
* `SettingsError`, `SettingsError.kind`, `SettingsError.messageWithin`, `checkThreshold`;
* `Thresholds`.
-/

namespace CodeCensus

/-- A limit of the analysis. -/
inductive ThresholdKey where
  | minLines
  | similarityThreshold
  | minTokens
  | maxFileSize
  | largeFileLines
  | veryLargeFileLines
  | largeFileSizeKB
  | veryLargeFileSizeKB
  | highComplexity
  | veryHighComplexity
  deriving DecidableEq, Repr

namespace ThresholdKey

/-- The name of a threshold in settings and reports. -/
def name : ThresholdKey → String
  | minLines => "minLines"
  | similarityThreshold => "similarityThreshold"
  | minTokens => "minTokens"
  | maxFileSize => "maxFileSize"
  | largeFileLines => "largeFileLines"
  | veryLargeFileLines => "veryLargeFileLines"
  | largeFileSizeKB => "largeFileSizeKB"
  | veryLargeFileSizeKB => "veryLargeFileSizeKB"
  | highComplexity => "highComplexity"
  | veryHighComplexity => "veryHighComplexity"

/-- Every threshold. -/
def all : List ThresholdKey :=
  [minLines, similarityThreshold, minTokens, maxFileSize, largeFileLines, veryLargeFileLines,
    largeFileSizeKB, veryLargeFileSizeKB, highComplexity, veryHighComplexity]

/-- The threshold with a given name. -/
def ofName? (name : String) : Option ThresholdKey := all.find? fun k => k.name = name

/-- The threshold that a settings key names. -/
def ofValue? : Value → Option ThresholdKey
  | .text s => ofName? s
  | _ => none

/-- The threshold takes integers only. -/
def integersOnly : ThresholdKey → Bool
  | minLines | minTokens | maxFileSize | largeFileLines | veryLargeFileLines => true
  | _ => false

/-- The kinds of values that a threshold takes, as messages name them. -/
def expected (k : ThresholdKey) : String := if k.integersOnly then "int" else "int or float"

/-- The least value. -/
def least : ThresholdKey → Int
  | minLines => 1
  | _ => 0

/-- The greatest value, if there is one. -/
def greatest? : ThresholdKey → Option Int
  | similarityThreshold => some 1
  | _ => none

/-- The range of values, as messages state it. -/
def bounds : ThresholdKey → String
  | similarityThreshold => "in [0.0, 1.0]"
  | k => ">= " ++ intText k.least

/-- The value of a threshold that is not set. -/
def default : ThresholdKey → Number
  | minLines => .int 5
  | similarityThreshold => .double (.ofDecimal false 8 (-1))
  | minTokens => .int 10
  | maxFileSize => .int 1048576
  | largeFileLines => .int 500
  | veryLargeFileLines => .int 1000
  | largeFileSizeKB => .int 100
  | veryLargeFileSizeKB => .int 500
  | highComplexity => .int 10
  | veryHighComplexity => .int 20

end ThresholdKey

/-! ## Tables of defaults -/

/-- The thresholds of duplicate detection, with the values that documents start from. -/
def duplicateTable : List (String × Number) :=
  [("minLines", .int 5),
    ("similarityThreshold", .double (.ofDecimal false 8 (-1))),
    ("minTokens", .int 10),
    ("maxFileSize", .int 1048576)]

/-- The thresholds of code metrics, with the values that documents start from. -/
def metricsTable : List (String × Number) :=
  [("largeFileLines", .int 500),
    ("veryLargeFileLines", .int 1000),
    ("largeFileSizeKB", .int 100),
    ("veryLargeFileSizeKB", .int 500),
    ("highComplexity", .int 10),
    ("veryHighComplexity", .int 20)]

namespace ThresholdKey

/-- The thresholds that a table names. -/
def ofTable (table : List (String × Number)) : List ThresholdKey := table.filterMap fun e => ofName? e.1

/-- The thresholds of duplicate detection. -/
def duplicates : List ThresholdKey := ofTable duplicateTable

/-- The thresholds of code metrics. -/
def metrics : List ThresholdKey := ofTable metricsTable

theorem duplicates_eq : duplicates = [minLines, similarityThreshold, minTokens, maxFileSize] := by
  decide

theorem metrics_eq : metrics = [largeFileLines, veryLargeFileLines, largeFileSizeKB,
    veryLargeFileSizeKB, highComplexity, veryHighComplexity] := by
  decide

/-- The two tables are about different thresholds, and about all of them. -/
theorem all_eq : all = duplicates ++ metrics := by decide

end ThresholdKey

/-- The values in the table are the defaults of the thresholds that it names. -/
theorem duplicateTable_eq : duplicateTable = ThresholdKey.duplicates.map fun k => (k.name, k.default) := by
  rw [ThresholdKey.duplicates_eq]
  rfl

theorem metricsTable_eq : metricsTable = ThresholdKey.metrics.map fun k => (k.name, k.default) := by
  rw [ThresholdKey.metrics_eq]
  rfl

/-! ## Checking -/

/-- Why settings are rejected. -/
inductive SettingsError where
  | notMapping (given : Value)
  | wrongKind (key : ThresholdKey) (given : Value)
  | notFinite (key : ThresholdKey) (given : Value)
  | outOfRange (key : ThresholdKey) (given : Value)
  | tooLarge (key : ThresholdKey)
  | badWorkers (given : Value)
  | badTimeout (given : Value)
  | badWorkspace (given : Value)
  | notDocument (file : String)
  | sectionNotMapping (sectionKey : Value)
  deriving Repr

/-- What kind of error settings are rejected with: a rule for settings is broken, a number is too large to be
    looked at, or the workspace is no path. -/
inductive SettingsErrorKind where
  | invalid
  | overflow
  | notPath
  deriving DecidableEq, Repr

/-- The kind of an error. -/
def SettingsError.kind : SettingsError → SettingsErrorKind
  | tooLarge _ => .overflow
  | badWorkspace _ => .notPath
  | _ => .invalid

/-- The wording of an error. -/
def SettingsError.message : SettingsError → String
  | notMapping given => "thresholds must be a mapping, got " ++ given.typeName
  | wrongKind key given => key.name ++ " must be " ++ key.expected ++ ", got " ++ given.quoted
  | notFinite key given => key.name ++ " must be a finite number, got " ++ given.quoted
  | outOfRange key given => key.name ++ " must be " ++ key.bounds ++ ", got " ++ given.quoted
  | tooLarge _ => NumberFault.intTooLarge.message
  | badWorkers given => "workers must be a positive integer, got " ++ given.quoted
  | badTimeout given => "timeout must be a positive number, got " ++ given.quoted
  | badWorkspace given => "expected str, bytes or os.PathLike object, not " ++ given.fullTypeName
  | notDocument file => "Config file " ++ file ++ " must contain a mapping"
  | sectionNotMapping key => "Config section " ++ key.quoted ++ " must be a mapping"

/-- The value that the wording of an error shows. -/
def SettingsError.shown? : SettingsError → Option Value
  | wrongKind _ given => some given
  | notFinite _ given => some given
  | outOfRange _ given => some given
  | badWorkers given => some given
  | badTimeout given => some given
  | sectionNotMapping key => some key
  | notMapping _ | tooLarge _ | badWorkspace _ | notDocument _ => none

/-- The number that a threshold takes from a value: an integer, or a double where those are taken. -/
def ThresholdKey.number? (k : ThresholdKey) : Value → Option Number
  | .int n => some (.int n)
  | .float x => if k.integersOnly then none else some (.double x)
  | _ => none

/-- The number is a double or fits into one, and is neither infinite nor a NaN. -/
def checkFinite (k : ThresholdKey) (given : Value) : Number → Except SettingsError Unit
  | .int n => if (Double.ofInt? n).isSome then .ok () else .error (.tooLarge k)
  | .double x => if x.isFinite then .ok () else .error (.notFinite k given)

/-- The number lies within the range of the threshold. -/
def ThresholdKey.inRange (k : ThresholdKey) (n : Number) : Bool :=
  !n.lt (.int k.least) && !(k.greatest?.any fun top => (Number.int top).lt n)

/-- The value of a threshold, checked. -/
def checkThreshold (k : ThresholdKey) (given : Value) : Except SettingsError Number :=
  match k.number? given with
  | none => .error (.wrongKind k given)
  | some n => do
    checkFinite k given n
    if k.inRange n then return n else throw (.outOfRange k given)

/-- A value for every threshold. -/
structure Thresholds where
  get : ThresholdKey → Number

namespace Thresholds

/-- The default thresholds. -/
def defaults : Thresholds := ⟨ThresholdKey.default⟩

/-- The thresholds with one of them changed. -/
def set (t : Thresholds) (key : ThresholdKey) (n : Number) : Thresholds :=
  ⟨fun k => if k = key then n else t.get k⟩

/-- An integer threshold. -/
def int (t : Thresholds) (key : ThresholdKey) : Int :=
  match t.get key with
  | .int n => n
  | .double _ => 0

/-- Thresholds as a value. -/
def toValue (t : Thresholds) (keys : List ThresholdKey) : Value :=
  .ofFields (keys.map fun k => (k.name, (t.get k).toValue))

end Thresholds
end CodeCensus
