import CodeCensus.Proofs.SuccessfulRuns
import CodeCensus.Value.Fields

/-!
# Reports as they are shown

A search returns a value: a map with a field for each part of the report, and lists of maps in some of them. Here
such a value is read by the names of its fields, and nothing else of it is looked at. What is read from the value of
a report is what the report holds, so a statement about what is read is one about the returned value.

## Contents
- `ShownMember`, `ShownGroup`, `ShownFile`, `ShownSummary`, `ShownReport` — the parts of a report, each with `read?`;
- `ShownMember.read?_toValue` and its like, up to `ShownReport.read?_toValue` — what is read from a report;
- `findDuplicates_shown` — what is read from a search that succeeded.
-/

namespace CodeCensus

/-! ## Members and groups -/

/-- A location as a report shows it: a whole file, or a span of its lines. -/
structure ShownMember where
  path : String
  lines : Int
  language : String
  startLine : Option Int
  endLine : Option Int
  deriving DecidableEq, Repr

/-- Reads the entry of a location. -/
def ShownMember.read? (v : Value) : Option ShownMember := do
  let path ← v.textAt? "path"
  let lines ← v.intAt? "lines"
  let language ← v.textAt? "language"
  return ⟨path, lines, language, v.intAt? "startLine", v.intAt? "endLine"⟩

/-- A location as its report shows it; the last line of a span is shown when it has a first one. -/
def Member.shown (m : Member) : ShownMember :=
  ⟨m.path, m.lines, m.language.tag, m.startLine, m.startLine.bind fun _ => m.endLine⟩

theorem ShownMember.read?_toValue (m : Member) : read? m.toValue = some m.shown := by
  obtain ⟨path, lines, language, start, stop⟩ := m
  cases start with
  | none => simp [read?, Member.toValue, Value.textAt?, Value.intAt?, Member.shown]
  | some start =>
      cases stop with
      | none => simp [read?, Member.toValue, Value.textAt?, Value.intAt?, Member.shown, Member.lineValue]
      | some stop => simp [read?, Member.toValue, Value.textAt?, Value.intAt?, Member.shown, Member.lineValue]

/-- A group as a report shows it. -/
structure ShownGroup where
  kind : DuplicateKind
  duplicateLines : Int
  members : List ShownMember
  deriving DecidableEq, Repr

/-- Reads the entry of a group. -/
def ShownGroup.read? (v : Value) : Option ShownGroup := do
  let kind ← (v.textAt? "type").bind DuplicateKind.ofTag?
  let duplicateLines ← v.intAt? "duplicateLines"
  let members ← (← v.listAt? "members").mapM ShownMember.read?
  return ⟨kind, duplicateLines, members⟩

/-- A group as its report shows it. -/
def DuplicateGroup.shown (g : DuplicateGroup) : ShownGroup :=
  ⟨g.kind, g.duplicateLines, g.members.map Member.shown⟩

/-- A kind is told by its name. -/
theorem DuplicateKind.ofTag?_tag (kind : DuplicateKind) : ofTag? kind.tag = some kind := by
  cases kind <;> decide

theorem ShownGroup.read?_toValue (g : DuplicateGroup) : read? g.toValue = some g.shown := by
  have hkind : (g.toValue.textAt? "type").bind DuplicateKind.ofTag? = some g.kind := by
    simp [DuplicateGroup.toValue, Value.textAt?, DuplicateKind.ofTag?_tag]
  have hlines : g.toValue.intAt? "duplicateLines" = some g.duplicateLines := by
    simp [DuplicateGroup.toValue, Value.intAt?]
  have hmembers : g.toValue.listAt? "members" = some (g.members.map Member.toValue) := by
    simp [DuplicateGroup.toValue, Value.listAt?]
  unfold read?
  rw [hkind, hlines, hmembers]
  show ((g.members.map Member.toValue).mapM ShownMember.read? >>= fun members => _) = _
  rw [mapM_read? ShownMember.read?_toValue]
  rfl

/-! ## Files and figures -/

/-- An analysed file as a report shows it. -/
structure ShownFile where
  relativePath : String
  language : String
  lines : Int
  deriving DecidableEq, Repr

/-- Reads the entry of a file. -/
def ShownFile.read? (v : Value) : Option ShownFile := do
  let relativePath ← v.textAt? "relativePath"
  let language ← v.textAt? "language"
  let lines ← v.intAt? "lines"
  return ⟨relativePath, language, lines⟩

/-- A file as its report shows it. -/
def FileRecord.shown (r : FileRecord) : ShownFile := ⟨r.relativePath, r.language.tag, r.lines⟩

theorem ShownFile.read?_summary (r : FileRecord) : read? r.summary = some r.shown := by
  simp [read?, FileRecord.summary, Value.textAt?, Value.intAt?, FileRecord.shown]

/-- The figures that a report shows. -/
structure ShownSummary where
  totalFiles : Int
  analyzedFiles : Int
  duplicateBlocks : Int
  duplicateLines : Int
  affectedFiles : Int
  deriving DecidableEq, Repr

/-- Reads the figures of a report. -/
def ShownSummary.read? (v : Value) : Option ShownSummary := do
  let totalFiles ← v.intAt? "totalFiles"
  let analyzedFiles ← v.intAt? "analyzedFiles"
  let duplicateBlocks ← v.intAt? "duplicateBlocks"
  let duplicateLines ← v.intAt? "duplicateLines"
  let affectedFiles ← v.intAt? "affectedFiles"
  return ⟨totalFiles, analyzedFiles, duplicateBlocks, duplicateLines, affectedFiles⟩

/-- The figures as their report shows them. -/
def DuplicateSummary.shown (s : DuplicateSummary) : ShownSummary :=
  ⟨s.totalFiles, s.analyzedFiles, s.duplicateBlocks, s.duplicateLines, s.affectedFiles⟩

theorem ShownSummary.read?_toValue (s : DuplicateSummary) : read? s.toValue = some s.shown := by
  simp [read?, DuplicateSummary.toValue, Value.intAt?, Value.nat, DuplicateSummary.shown]

/-! ## Reports -/

/-- What a duplicate report shows. -/
structure ShownReport where
  summary : ShownSummary
  exact : List ShownGroup
  similar : List ShownGroup
  files : List ShownFile
  deriving DecidableEq, Repr

/-- All groups of a report. -/
def ShownReport.groups (shown : ShownReport) : List ShownGroup := shown.exact ++ shown.similar

/-- Reads the value of a duplicate report. -/
def ShownReport.read? (v : Value) : Option ShownReport := do
  let summary ← (v.get? "summary").bind ShownSummary.read?
  let exact ← (← v.listAt? "exactDuplicates").mapM ShownGroup.read?
  let similar ← (← v.listAt? "similarDuplicates").mapM ShownGroup.read?
  let files ← (← v.listAt? "fileAnalysis").mapM ShownFile.read?
  return ⟨summary, exact, similar, files⟩

/-- A report as it is shown. -/
def DuplicateReport.shown (r : DuplicateReport) : ShownReport :=
  ⟨r.summary.shown, r.exact.map DuplicateGroup.shown, r.similar.map DuplicateGroup.shown,
    r.records.map FileRecord.shown⟩

/-- **What is read from the value of a report** is what the report holds. -/
theorem ShownReport.read?_toValue (r : DuplicateReport) : read? r.toValue = some r.shown := by
  have hsummary : (r.toValue.get? "summary").bind ShownSummary.read? = some r.summary.shown := by
    simp [DuplicateReport.toValue, ShownSummary.read?_toValue]
  have hexact : r.toValue.listAt? "exactDuplicates" = some (r.exact.map DuplicateGroup.toValue) := by
    simp [DuplicateReport.toValue, Value.listAt?]
  have hsimilar : r.toValue.listAt? "similarDuplicates" = some (r.similar.map DuplicateGroup.toValue) := by
    simp [DuplicateReport.toValue, Value.listAt?]
  have hfiles : r.toValue.listAt? "fileAnalysis" = some (r.records.map FileRecord.summary) := by
    simp [DuplicateReport.toValue, Value.listAt?]
  unfold read?
  rw [hsummary, hexact, hsimilar, hfiles]
  simp only [Option.bind_eq_bind, Option.bind_some, mapM_read? ShownGroup.read?_toValue,
    mapM_read? ShownFile.read?_summary]
  rfl

@[simp] theorem DuplicateReport.shown_groups (r : DuplicateReport) :
    r.shown.groups = (r.exact ++ r.similar).map DuplicateGroup.shown :=
  List.map_append.symm

/-- **A search that succeeded** shows the report of its run. -/
theorem findDuplicates_shown {fs : FileSystem} {host : RunHost} {raw : RawSettings}
    (h : succeeded (findDuplicates fs host raw).2 = true) :
    ∃ settings report, (Settings.read raw).2 = .ok settings ∧
      (runDuplicates fs host settings).2 = .ok report ∧
      (findDuplicates fs host raw).2 = report.toValue ∧
      ShownReport.read? (findDuplicates fs host raw).2 = some report.shown := by
  obtain ⟨settings, report, hread, hrun, hvalue⟩ := findDuplicates_succeeded h
  refine ⟨settings, report, hread, hrun, hvalue, ?_⟩
  rw [hvalue]
  exact ShownReport.read?_toValue report

end CodeCensus
