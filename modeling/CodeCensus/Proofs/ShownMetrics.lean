import CodeCensus.Run.Metrics
import CodeCensus.Value.Fields

/-!
# Metrics as they are shown

The sections of a metrics report are values: a map of totals, a map with an entry for each language, a list of
large files, and a map with the list of complex files. Here they are read by the names of their fields. What is
read from the sections is what the accounts hold.

## Contents
- `ShownTotals`, `ShownLanguage`, `ShownLargeFile`, `ShownComplexFile` — the parts of the sections, each with
  `read?` and what it reads back;
- `ShownSections`, `Aggregate.read?_sections` — all sections of the accounts;
- `ShownMeasure`, `ShownMetrics`, `MetricsReport.read?_toValue` — a whole report.
-/

namespace CodeCensus

/-! ## Totals -/

/-- The totals of a workspace as they are shown. -/
structure ShownTotals where
  totalFiles : Int
  totalLines : Int
  totalCodeLines : Int
  totalCommentLines : Int
  totalBlankLines : Int
  totalSizeBytes : Int
  largeFiles : Int
  veryLargeFiles : Int
  deriving DecidableEq, Repr

/-- Reads the totals of a workspace. -/
def ShownTotals.read? (v : Value) : Option ShownTotals := do
  let totalFiles ← v.intAt? "totalFiles"
  let totalLines ← v.intAt? "totalLines"
  let totalCodeLines ← v.intAt? "totalCodeLines"
  let totalCommentLines ← v.intAt? "totalCommentLines"
  let totalBlankLines ← v.intAt? "totalBlankLines"
  let totalSizeBytes ← v.intAt? "totalSizeBytes"
  let largeFiles ← v.intAt? "largeFiles"
  let veryLargeFiles ← v.intAt? "veryLargeFiles"
  return ⟨totalFiles, totalLines, totalCodeLines, totalCommentLines, totalBlankLines, totalSizeBytes,
    largeFiles, veryLargeFiles⟩

/-- A summary as it is shown. -/
def Summary.shown (s : Summary) : ShownTotals :=
  ⟨s.totalFiles, s.totalLines, s.totalCodeLines, s.totalCommentLines, s.totalBlankLines, s.totalSizeBytes,
    s.largeFiles, s.veryLargeFiles⟩

theorem ShownTotals.read?_toValue (s : Summary) : read? s.toValue = some s.shown := by
  simp [read?, Summary.toValue, Value.intAt?, Value.nat, Summary.shown]

/-- The totals of a language as they are shown. -/
structure ShownLanguage where
  files : Int
  lines : Int
  codeLines : Int
  commentLines : Int
  blankLines : Int
  sizeBytes : Int
  functions : Int
  classes : Int
  deriving DecidableEq, Repr

/-- Reads the totals of a language. -/
def ShownLanguage.read? (v : Value) : Option ShownLanguage := do
  let files ← v.intAt? "files"
  let lines ← v.intAt? "lines"
  let codeLines ← v.intAt? "codeLines"
  let commentLines ← v.intAt? "commentLines"
  let blankLines ← v.intAt? "blankLines"
  let sizeBytes ← v.intAt? "sizeBytes"
  let functions ← v.intAt? "functions"
  let classes ← v.intAt? "classes"
  return ⟨files, lines, codeLines, commentLines, blankLines, sizeBytes, functions, classes⟩

/-- The totals of a language as they are shown. -/
def LanguageTotals.shown (t : LanguageTotals) : ShownLanguage :=
  ⟨t.files, t.lines, t.codeLines, t.commentLines, t.blankLines, t.sizeBytes, t.functions, t.classes⟩

theorem ShownLanguage.read?_toValue (t : LanguageTotals) : read? t.toValue = some t.shown := by
  simp [read?, LanguageTotals.toValue, Value.intAt?, Value.nat, LanguageTotals.shown]

/-- Reads one field of the section of languages. -/
def ShownLanguage.readField? (field : String × Value) : Option (String × ShownLanguage) :=
  (read? field.2).map fun totals => (field.1, totals)

/-! ## Lists of files -/

/-- A large file as it is shown. -/
structure ShownLargeFile where
  path : String
  lines : Int
  sizeKB : Double
  language : String
  reason : String
  deriving Repr

/-- Reads the entry of a large file. -/
def ShownLargeFile.read? (v : Value) : Option ShownLargeFile := do
  let path ← v.textAt? "path"
  let lines ← v.intAt? "lines"
  let sizeKB ← v.floatAt? "sizeKB"
  let language ← v.textAt? "language"
  let reason ← v.textAt? "reason"
  return ⟨path, lines, sizeKB, language, reason⟩

/-- A large file as it is shown under some thresholds. -/
def FileMetrics.shownLarge (t : Thresholds) (m : FileMetrics) : ShownLargeFile :=
  ⟨m.relativePath, m.lines, m.sizeKB, m.language.tag, m.largeReason t⟩

theorem ShownLargeFile.read?_largeEntry (t : Thresholds) (m : FileMetrics) :
    read? (m.largeEntry t) = some (m.shownLarge t) := by
  simp [read?, FileMetrics.largeEntry, Value.textAt?, Value.intAt?, Value.floatAt?, FileMetrics.shownLarge]

/-- A complex file as it is shown. -/
structure ShownComplexFile where
  path : String
  complexity : Int
  functions : Int
  language : String
  severity : String
  deriving DecidableEq, Repr

/-- Reads the entry of a complex file. -/
def ShownComplexFile.read? (v : Value) : Option ShownComplexFile := do
  let path ← v.textAt? "path"
  let complexity ← v.intAt? "complexity"
  let functions ← v.intAt? "functions"
  let language ← v.textAt? "language"
  let severity ← v.textAt? "severity"
  return ⟨path, complexity, functions, language, severity⟩

/-- A complex file as it is shown under some thresholds. -/
def FileMetrics.shownComplex (t : Thresholds) (m : FileMetrics) : ShownComplexFile :=
  ⟨m.relativePath, m.complexity, m.functions, m.language.tag, m.severity t⟩

theorem ShownComplexFile.read?_complexEntry (t : Thresholds) (m : FileMetrics) :
    read? (m.complexEntry t) = some (m.shownComplex t) := by
  simp [read?, FileMetrics.complexEntry, Value.textAt?, Value.intAt?, FileMetrics.shownComplex]

/-! ## Sections -/

/-- The sections that accounts of files give to a report. -/
structure ShownSections where
  totals : ShownTotals
  languages : List (String × ShownLanguage)
  large : List ShownLargeFile
  complex : List ShownComplexFile
  totalFunctions : Int
  deriving Repr

/-- Reads the sections of totals, of languages, of large files and of complexity. -/
def ShownSections.read? (summary languages large complexity : Value) : Option ShownSections := do
  let totals ← ShownTotals.read? summary
  let languages ← (← languages.fields?).mapM ShownLanguage.readField?
  let large ← (← large.items?).mapM ShownLargeFile.read?
  let complex ← (← complexity.listAt? "highComplexityFiles").mapM ShownComplexFile.read?
  let totalFunctions ← complexity.intAt? "totalFunctions"
  return ⟨totals, languages, large, complex, totalFunctions⟩

namespace Aggregate

/-- The accounts of files as they are shown. -/
def shown (a : Aggregate) : ShownSections where
  totals := a.summary.shown
  languages := a.languages.entries.map fun e => (e.1.tag, e.2.shown)
  large := a.largeFiles.map (FileMetrics.shownLarge a.thresholds)
  complex := a.complexity.highFiles.map (FileMetrics.shownComplex a.thresholds)
  totalFunctions := a.complexity.totalFunctions

/-- The sections of the accounts, read by the names of their fields. -/
def shown? (a : Aggregate) : Option ShownSections :=
  ShownSections.read? a.summary.toValue a.languagesValue a.largeValue (a.complexity.toValue a.thresholds)

/-- **What is read from the sections** is what the accounts hold. -/
theorem read?_sections (a : Aggregate) : a.shown? = some a.shown := by
  have hlanguage : ∀ e : Language × LanguageTotals,
      ShownLanguage.readField? (e.1.tag, e.2.toValue) = some (e.1.tag, e.2.shown) := by
    intro e
    simp [ShownLanguage.readField?, ShownLanguage.read?_toValue]
  have hcomplex : (a.complexity.toValue a.thresholds).listAt? "highComplexityFiles" =
      some (a.complexity.highFiles.map fun m => m.complexEntry a.thresholds) := by
    simp [Complexity.toValue, Value.listAt?]
  have hfunctions :
      (a.complexity.toValue a.thresholds).intAt? "totalFunctions" = some a.complexity.totalFunctions := by
    simp [Complexity.toValue, Value.intAt?]
  unfold shown? ShownSections.read? languagesValue largeValue
  rw [hcomplex, hfunctions]
  simp only [Option.bind_eq_bind, Option.bind_some, ShownTotals.read?_toValue, Value.fields?_ofFields,
    Value.items?_list, mapM_read? hlanguage, mapM_read? (ShownLargeFile.read?_largeEntry a.thresholds),
    mapM_read? (ShownComplexFile.read?_complexEntry a.thresholds)]
  rfl

end Aggregate

/-! ## Reports -/

/-- A measured file as it is shown. -/
structure ShownMeasure where
  path : String
  relativePath : String
  language : String
  sizeBytes : Int
  lines : Int
  deriving DecidableEq, Repr

/-- Reads the entry of a measured file. -/
def ShownMeasure.read? (v : Value) : Option ShownMeasure := do
  let path ← v.textAt? "path"
  let relativePath ← v.textAt? "relativePath"
  let language ← v.textAt? "language"
  let sizeBytes ← v.intAt? "sizeBytes"
  let lines ← v.intAt? "lines"
  return ⟨path, relativePath, language, sizeBytes, lines⟩

/-- A measured file as it is shown. -/
def FileMetrics.shown (m : FileMetrics) : ShownMeasure :=
  ⟨m.path.text, m.relativePath, m.language.tag, m.sizeBytes, m.lines⟩

theorem ShownMeasure.read?_summary {m : FileMetrics} {entry : Value} (h : m.summary = .ok entry) :
    read? entry = some m.shown := by
  unfold FileMetrics.summary at h
  cases hmodified : timestampText m.modified with
  | error fault => simp [hmodified, bind, Except.bind] at h
  | ok modified =>
      simp only [hmodified, bind, Except.bind, pure, Except.pure, Except.ok.injEq] at h
      subst h
      simp [read?, Value.textAt?, Value.intAt?, FileMetrics.shown]

/-- What a metrics report shows. -/
structure ShownMetrics where
  workspace : String
  sections : ShownSections
  files : List ShownMeasure
  deriving Repr

/-- Reads the value of a metrics report. -/
def ShownMetrics.read? (v : Value) : Option ShownMetrics := do
  let workspace ← v.textAt? "workspace"
  let sections ← ShownSections.read? (← v.get? "summary") (← v.get? "languages") (← v.get? "largeFiles")
    (← v.get? "complexity")
  let files ← (← v.listAt? "fileMetrics").mapM ShownMeasure.read?
  return ⟨workspace, sections, files⟩

/-- **What is read from the value of a report** is what its accounts hold, with the entries of its files. -/
theorem MetricsReport.read?_toValue {r : MetricsReport} {files : List ShownMeasure}
    (hcomplexity : r.complexity = r.aggregate.complexity)
    (hfiles : r.entries.mapM ShownMeasure.read? = some files) :
    ShownMetrics.read? r.toValue = some ⟨r.workspace.text, r.aggregate.shown, files⟩ := by
  have hsections := r.aggregate.read?_sections
  unfold Aggregate.shown? at hsections
  simp [ShownMetrics.read?, toValue, Value.textAt?, Value.listAt?, hcomplexity, hsections, hfiles]

end CodeCensus
