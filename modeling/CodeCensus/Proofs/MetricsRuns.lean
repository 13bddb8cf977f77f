import CodeCensus.Proofs.DatedTimes
import CodeCensus.Proofs.LoadedKeys
import CodeCensus.Proofs.MetricsTotals
import CodeCensus.Proofs.SuccessfulRuns
import CodeCensus.Proofs.WorkerPool

/-!
# Runs of the metrics

A file that cannot be read is left out of the metrics, and nothing else in the report changes. A file that can be
read is measured, and gets an entry with the date of its last change. Here one file can still spoil the whole run:
a modification time that is no date has no place in an entry, and then there is no report at all. So a run in an
existing workspace succeeds exactly when the files that can be read have dates.

## Contents
- `FileSystem.readableBelow`, `FileSystem.IsDated` — the files that are measured, and those that can be shown;
- `measured_readable` — what is measured are the readable files, in the order of the walk;
- `summary_iff_dated`, `first_undated` — entries are made one by one, up to a file without a date;
- `runMetrics_cases`, `analyzeMetrics_cases` — a report on all those files, or a failure;
- `Value.IsMetricsReport`, `Value.IsMetricsFailure` — the two kinds of values, by their fields;
- `measuredBelow_congr` — the other files do not matter;
- `metrics_run_succeeds_iff_dated` — the outcomes of a run.
-/

namespace CodeCensus

variable {fs : FileSystem} {root path : Path}

/-! ## Files that can be read -/

/-- The files below a directory that can be read as text, in the order of the walk. -/
def FileSystem.readableBelow (fs : FileSystem) (root : Path) : List Path :=
  (foundPaths ((fs.walk? metricsWalk root).getD [])).filter fun path => (fs.readText path).toOption.isSome

/-- The modification time of the file at a path is a date. -/
def FileSystem.IsDated (fs : FileSystem) (path : Path) : Prop :=
  ∃ info, fs.stat path = .ok info ∧ firstDated ≤ info.modified ∧ info.modified ≤ lastDated

theorem FileSystem.exists_stat_of_readText {content : String} (h : fs.readText path = .ok content) :
    ∃ info, fs.stat path = .ok info := by
  unfold readText readBytes at h
  unfold stat
  cases hlocate : fs.locate path with
  | error fault => simp [hlocate] at h
  | ok found => exact ⟨_, rfl⟩

/-- What can be measured is what can be read. -/
theorem measureFile_isSome (fs : FileSystem) (table : LanguageTable) (root path : Path) :
    ((measureFile fs table root path).map some).toOption.join.isSome =
      (fs.readText path).toOption.isSome := by
  cases hread : fs.readText path with
  | error e =>
      have hnone : ∀ m, measureFile fs table root path ≠ .ok m := by
        intro m hm
        obtain ⟨_, _, _, hcontent, _⟩ := measureFile_eq_ok.mp hm
        simp [hread] at hcontent
      cases hmeasure : measureFile fs table root path with
      | error e => rfl
      | ok m => exact absurd hmeasure (hnone m)
  | ok content =>
      obtain ⟨info, hstat⟩ := FileSystem.exists_stat_of_readText hread
      rw [measureFile_eq_ok.mpr ⟨info, content, hstat, hread, rfl⟩]
      rfl

/-- The files of a walk that could be measured. -/
def measuredBelow (fs : FileSystem) (root : Path) : List FileMetrics :=
  (analyzeFiles root (fun path => (measureFile fs metricsLanguages root path).map some)
    (foundPaths ((fs.walk? metricsWalk root).getD []))).results

/-- **The measured files are those that can be read, in the order of the walk.** -/
theorem measured_readable (fs : FileSystem) (root : Path) :
    List.Forall₂ (fun path m => measureFile fs metricsLanguages root path = .ok m) (fs.readableBelow root)
      (measuredBelow fs root) := by
  unfold measuredBelow analyzeFiles
  rw [gather_results root (List.Perm.refl _)]
  have hmeasured := forall₂_filterMap
    (fun path => ((measureFile fs metricsLanguages root path).map some).toOption.join)
    (foundPaths ((fs.walk? metricsWalk root).getD []))
  simp only [measureFile_isSome] at hmeasured
  refine hmeasured.imp fun path m h => ?_
  have hsome := toOption_join_eq_some.mp h
  cases hmeasure : measureFile fs metricsLanguages root path with
  | error e =>
      rw [hmeasure] at hsome
      cases hsome
  | ok m' =>
      rw [hmeasure] at hsome
      cases hsome
      rfl

/-! ## Entries -/

theorem FileMetrics.summary_eq_ok {m : FileMetrics} :
    (∃ entry, m.summary = .ok entry) ↔ ∃ text, timestampText m.modified = .ok text := by
  unfold FileMetrics.summary
  cases timestampText m.modified <;> simp [bind, Except.bind, pure, Except.pure]

/-- A measured file has an entry exactly when its time is a date. -/
theorem summary_iff_dated {table : LanguageTable} {m : FileMetrics}
    (h : measureFile fs table root path = .ok m) : (∃ entry, m.summary = .ok entry) ↔ fs.IsDated path := by
  obtain ⟨info, content, hstat, _, rfl⟩ := measureFile_eq_ok.mp h
  rw [FileMetrics.summary_eq_ok]
  show (∃ text, timestampText (secondsOf info.modified) = .ok text) ↔ _
  rw [dated_iff]
  constructor
  · intro hdated
    exact ⟨info, hstat, hdated⟩
  · rintro ⟨info', hstat', hdated⟩
    rw [hstat] at hstat'
    cases hstat'
    exact hdated

section Entries

variable {table : LanguageTable} {paths : List Path} {files : List FileMetrics}

theorem dated_of_summaries
    (hfiles : List.Forall₂ (fun path m => measureFile fs table root path = .ok m) paths files)
    (hentries : ∀ m ∈ files, ∃ entry, FileMetrics.summary m = .ok entry) :
    ∀ path ∈ paths, fs.IsDated path := by
  induction hfiles with
  | nil => simp
  | cons hfile _ ih =>
      rw [List.forall_mem_cons] at hentries ⊢
      exact ⟨(summary_iff_dated hfile).mp hentries.1, ih hentries.2⟩

/-- Entries that cannot be made are given up at the first file whose time is no date. -/
theorem first_undated {fault : TimestampFault}
    (hfiles : List.Forall₂ (fun path m => measureFile fs table root path = .ok m) paths files)
    (hfault : files.mapM FileMetrics.summary = .error fault) :
    ∃ before path after m, paths = before ++ path :: after ∧ (∀ p ∈ before, fs.IsDated p) ∧
      ¬fs.IsDated path ∧ measureFile fs table root path = .ok m ∧ m.summary = .error fault := by
  obtain ⟨shown, m, others, rfl, hshown, hsummary⟩ := mapM_eq_error_iff.mp hfault
  -- the paths are cut where the files are
  have hbefore := List.forall₂_take_append _ _ _ hfiles
  have hrest := List.forall₂_drop_append _ _ _ hfiles
  obtain ⟨path, after, hfile, _, hdrop⟩ := List.forall₂_cons_right_iff.mp hrest
  have hpaths : paths = paths.take shown.length ++ path :: after := by rw [← hdrop, List.take_append_drop]
  have hundated : ¬fs.IsDated path := by
    rw [← summary_iff_dated hfile]
    simp [hsummary]
  exact ⟨_, path, after, m, hpaths, dated_of_summaries hbefore hshown, hundated, hfile, hsummary⟩

end Entries

/-! ## Reports -/

/-- What a report says of the files that can be read: one entry each, in the order of the walk, and figures over
    all of them. -/
def MetricsReport.Covers (report : MetricsReport) (fs : FileSystem) (settings : Settings) (root : Path) :
    Prop :=
  ∃ files, List.Forall₂ (fun path m => measureFile fs metricsLanguages root path = .ok m)
      (fs.readableBelow root) files ∧
    List.Forall₂ (fun m entry => FileMetrics.summary m = .ok entry) files report.entries ∧
    report.workspace = root ∧ report.aggregate = Aggregate.ofFiles settings.thresholds files ∧
    report.complexity = report.aggregate.complexity

/-- What is in the place of a report after a failure: the fault of the first file whose time is no date. -/
def MetricsFault (fs : FileSystem) (root : Path) (fault : TimestampFault) : Prop :=
  ∃ before path after m, fs.readableBelow root = before ++ path :: after ∧ (∀ p ∈ before, fs.IsDated p) ∧
    ¬fs.IsDated path ∧ measureFile fs metricsLanguages root path = .ok m ∧ m.summary = .error fault

variable {settings : Settings}

theorem runMetrics_eq
    (hroot : fs.resolveWorkspace settings.workspace.text settings.workspace = .ok root) :
    (runMetrics fs settings).2 = reportMetrics settings root (measuredBelow fs root) := by
  unfold runMetrics
  rw [hroot]
  rfl

/-- **A run in an existing workspace** covers the files that can be read, or has failed at one without a date. -/
theorem runMetrics_cases
    (hroot : fs.resolveWorkspace settings.workspace.text settings.workspace = .ok root) :
    (∃ report, (runMetrics fs settings).2 = .ok report ∧ report.Covers fs settings root) ∨
      ∃ fault, (runMetrics fs settings).2 = .error (.timestamp fault) ∧ MetricsFault fs root fault := by
  have hmeasured := measured_readable fs root
  rw [runMetrics_eq hroot]
  unfold reportMetrics
  cases hentries : (measuredBelow fs root).mapM FileMetrics.summary with
  | error fault => exact .inr ⟨fault, rfl, first_undated hmeasured hentries⟩
  | ok entries => exact .inl ⟨_, rfl, _, hmeasured, mapM_eq_ok_iff.mp hentries, rfl, rfl, rfl⟩

theorem MetricsReport.Covers.dated {report : MetricsReport} (h : report.Covers fs settings root) :
    ∀ path ∈ fs.readableBelow root, fs.IsDated path := by
  obtain ⟨files, hfiles, hentries, _⟩ := h
  have hboth := hentries.imp fun m entry hentry => And.intro (Exists.intro entry hentry) hentry
  exact dated_of_summaries hfiles ((List.forall₂_and_left _ _).mp hboth).1

theorem MetricsFault.not_dated {fault : TimestampFault} (h : MetricsFault fs root fault) :
    ¬∀ path ∈ fs.readableBelow root, fs.IsDated path := by
  obtain ⟨before, path, after, m, hpaths, _, hundated, _⟩ := h
  intro hdated
  exact hundated (hdated path (by simp [hpaths]))

/-! ## Values -/

/-- What a report shows of the files that can be read: how many they are, and an entry for each, in the order of the
    walk. -/
structure ShownMetrics.Covers (shown : ShownMetrics) (fs : FileSystem) (root : Path) : Prop where
  workspace_eq : shown.workspace = root.text
  count_eq : shown.sections.totals.totalFiles = (fs.readableBelow root).length
  files : List.Forall₂ (fun path entry => entry.path = path.text ∧ entry.relativePath = path.relativeText root ∧
    ∃ info, fs.stat path = .ok info ∧ entry.sizeBytes = (info.size : Int)) (fs.readableBelow root) shown.files

/-- The value is that of a report on the files that can be read. -/
structure Value.IsMetricsReport (fs : FileSystem) (root : Path) (v : Value) : Prop where
  success : v.get? "success" = some (.bool true)
  readable : ∃ shown, ShownMetrics.read? v = some shown ∧ shown.Covers fs root

/-- The value is that of a failure: it gives the error, shows no file, and has no figure but zero. -/
structure Value.IsMetricsFailure (workspace error : String) (v : Value) : Prop where
  success : v.get? "success" = some (.bool false)
  error : v.get? "error" = some (.text error)
  workspace : v.get? "workspace" = some (.text workspace)
  maps : ∀ name ∈ ["summary", "languages"], v.get? name = some (.map [])
  lists : ∀ name ∈ ["largeFiles", "fileMetrics", "recommendations"], v.get? name = some (.list [])
  complexity : ∃ c, v.get? "complexity" = some c ∧ c.intAt? "averageComplexity" = some 0 ∧
    c.listAt? "highComplexityFiles" = some [] ∧ c.intAt? "totalFunctions" = some 0
  fields : v.fieldNames = ["success", "error", "workspace", "summary", "languages", "largeFiles", "fileMetrics",
    "complexity", "recommendations"].map .text

theorem MetricsReport.isMetricsFailure_failureValue (workspace error : String) :
    (failureValue workspace error).IsMetricsFailure workspace error where
  success := by simp [failureValue]
  error := by simp [failureValue]
  workspace := by simp [failureValue]
  maps := by
    intro name hname
    simp only [List.mem_cons, List.not_mem_nil, or_false] at hname
    rcases hname with rfl | rfl <;> simp [failureValue]
  lists := by
    intro name hname
    simp only [List.mem_cons, List.not_mem_nil, or_false] at hname
    rcases hname with rfl | rfl | rfl <;> simp [failureValue]
  complexity := by simp [failureValue, Value.intAt?, Value.listAt?]
  fields := rfl

/-- The entries of files are read back as the files are shown. -/
theorem mapM_read?_summaries {files : List FileMetrics} {entries : List Value}
    (h : List.Forall₂ (fun m entry => FileMetrics.summary m = .ok entry) files entries) :
    entries.mapM ShownMeasure.read? = some (files.map FileMetrics.shown) := by
  induction h with
  | nil => rfl
  | cons hentry _ ih =>
      rw [List.mapM_cons, ShownMeasure.read?_summary hentry, ih]
      rfl

/-- **A report on the files that can be read shows them.** -/
theorem MetricsReport.Covers.isMetricsReport {report : MetricsReport} (h : report.Covers fs settings root) :
    report.toValue.IsMetricsReport fs root := by
  obtain ⟨files, hfiles, hentries, rfl, haggregate, hcomplexity⟩ := h
  refine ⟨by simp [toValue], _, read?_toValue hcomplexity (mapM_read?_summaries hentries), rfl, ?_, ?_⟩
  · have hholds := Aggregate.ofFiles_holds settings.thresholds files
    rw [← haggregate] at hholds
    show (report.aggregate.summary.totalFiles : Int) = _
    rw [hholds.summary.files_eq, hfiles.length_eq]
  · rw [List.forall₂_map_right_iff]
    refine hfiles.imp fun path m hmeasure => ?_
    obtain ⟨info, content, hstat, _, rfl⟩ := measureFile_eq_ok.mp hmeasure
    exact ⟨rfl, rfl, info, hstat, rfl⟩

@[simp] theorem MetricsReport.succeeded_toValue (r : MetricsReport) : succeeded r.toValue = true := by
  simp [succeeded, MetricsReport.toValue, Value.truthy]

@[simp] theorem MetricsReport.succeeded_failureValue (workspaceText error : String) :
    succeeded (MetricsReport.failureValue workspaceText error) = false := by
  simp [succeeded, MetricsReport.failureValue, Value.truthy]

theorem analyzeMetrics_eq {raw : RawSettings} (hread : (Settings.read raw).2 = .ok settings) :
    (analyzeMetrics fs raw).2 =
      match (runMetrics fs settings).2 with
      | .ok report => report.toValue
      | .error failure => MetricsReport.failureValue settings.workspace.text failure.message := by
  unfold analyzeMetrics
  rcases hsettings : Settings.read raw with ⟨notices, e | accepted⟩
  · simp [hsettings] at hread
  · obtain rfl : accepted = settings := by simpa [hsettings] using hread
    rcases hrun : runMetrics fs accepted with ⟨more, _ | _⟩ <;> simp [hrun]

/-- The value of a run is that of a report on all files that can be read, or a failure. -/
theorem analyzeMetrics_cases {raw : RawSettings} (hread : (Settings.read raw).2 = .ok settings)
    (hroot : fs.resolveWorkspace settings.workspace.text settings.workspace = .ok root) :
    (∃ report : MetricsReport, (analyzeMetrics fs raw).2 = report.toValue ∧ report.Covers fs settings root) ∨
      ∃ fault, (analyzeMetrics fs raw).2 =
          MetricsReport.failureValue settings.workspace.text (TimestampFault.message fault) ∧
        MetricsFault fs root fault := by
  rw [analyzeMetrics_eq hread]
  rcases runMetrics_cases hroot with ⟨report, hrun, hcovers⟩ | ⟨fault, hrun, hfault⟩
  · exact .inl ⟨report, by rw [hrun], hcovers⟩
  · exact .inr ⟨fault, by rw [hrun]; rfl, hfault⟩

theorem analyzeMetrics_succeeded_iff {raw : RawSettings} (hread : (Settings.read raw).2 = .ok settings)
    (hroot : fs.resolveWorkspace settings.workspace.text settings.workspace = .ok root) :
    succeeded (analyzeMetrics fs raw).2 = true ↔ ∀ path ∈ fs.readableBelow root, fs.IsDated path := by
  rcases analyzeMetrics_cases hread hroot with ⟨report, hvalue, hcovers⟩ | ⟨fault, hvalue, hfault⟩
  · rw [hvalue]
    exact iff_of_true report.succeeded_toValue hcovers.dated
  · rw [hvalue]
    exact iff_of_false (by simp) hfault.not_dated

/-- Only the files that can be read matter: where they are the same, the measures are. -/
theorem measuredBelow_congr {other : FileSystem} (hpaths : other.readableBelow root = fs.readableBelow root)
    (hsame : ∀ path ∈ fs.readableBelow root,
      other.stat path = fs.stat path ∧ other.readText path = fs.readText path) :
    measuredBelow other root = measuredBelow fs root := by
  have hother := measured_readable other root
  rw [hpaths] at hother
  have hmeasured : List.Forall₂ (fun path m => measureFile fs metricsLanguages root path = .ok m)
      (fs.readableBelow root) (measuredBelow other root) := by
    refine ((List.forall₂_and_left _ _).mpr ⟨hsame, hother⟩).imp ?_
    rintro path m ⟨⟨hstat, hread⟩, hm⟩
    rw [measureFile_eq_ok, hstat, hread, ← measureFile_eq_ok] at hm
    exact hm
  refine List.right_unique_forall₂' ?_ hmeasured (measured_readable fs root)
  intro path m m' hm hm'
  exact Except.ok.inj (hm.symm.trans hm')

/-- **The outcomes of a metrics run.** Under accepted settings and in an existing workspace, a run succeeds exactly
    when every file that can be read has a date. Then its report covers exactly those files, and shows an entry for
    each; otherwise there is a failure, with the fault of the first file that has no date, and shows no entry.
    Nothing depends on the other files. -/
theorem metrics_run_succeeds_iff_dated (fs : FileSystem) (raw : RawSettings) {settings : Settings} {root : Path}
    (hread : (Settings.read raw).2 = .ok settings)
    (hroot : fs.resolveWorkspace settings.workspace.text settings.workspace = .ok root) :
    (succeeded (analyzeMetrics fs raw).2 = true ↔ ∀ path ∈ fs.readableBelow root, fs.IsDated path) ∧
      ((∀ path ∈ fs.readableBelow root, fs.IsDated path) →
        ∃ report : MetricsReport,
          (analyzeMetrics fs raw).2 = report.toValue ∧ report.Covers fs settings root ∧
            (analyzeMetrics fs raw).2.IsMetricsReport fs root) ∧
      ((¬∀ path ∈ fs.readableBelow root, fs.IsDated path) →
        ∃ fault, (analyzeMetrics fs raw).2 =
            MetricsReport.failureValue settings.workspace.text (TimestampFault.message fault) ∧
          MetricsFault fs root fault ∧
          (analyzeMetrics fs raw).2.IsMetricsFailure settings.workspace.text (TimestampFault.message fault)) ∧
      ∀ other : FileSystem,
        other.resolveWorkspace settings.workspace.text settings.workspace = .ok root →
        other.readableBelow root = fs.readableBelow root →
        (∀ path ∈ fs.readableBelow root,
          other.stat path = fs.stat path ∧ other.readText path = fs.readText path) →
        (analyzeMetrics other raw).2 = (analyzeMetrics fs raw).2 := by
  have hcases := analyzeMetrics_cases hread hroot
  refine ⟨analyzeMetrics_succeeded_iff hread hroot, ?_, ?_, ?_⟩
  · intro hdated
    obtain ⟨report, hvalue, hcovers⟩ := hcases.resolve_right fun ⟨_, _, hfault⟩ => hfault.not_dated hdated
    exact ⟨report, hvalue, hcovers, hvalue ▸ hcovers.isMetricsReport⟩
  · intro hundated
    obtain ⟨fault, hvalue, hfault⟩ := hcases.resolve_left fun ⟨_, _, hcovers⟩ => hundated hcovers.dated
    exact ⟨fault, hvalue, hfault, hvalue ▸ MetricsReport.isMetricsFailure_failureValue _ _⟩
  · intro other hother hpaths hsame
    rw [analyzeMetrics_eq hread, analyzeMetrics_eq hread, runMetrics_eq hother, runMetrics_eq hroot,
      measuredBelow_congr hpaths hsame]

/-- An empty file of the given time, and a file that is no text. -/
def mixedEntries (modified : Int) : List (String × Node) :=
  [("a.py", .file .empty modified), ("b.bin", .file ⟨#[255]⟩ 0)]

/-- A disk with those two. -/
def mixedDisk (modified : Int) : FileSystem := ⟨.directory (mixedEntries modified), [], [], []⟩

theorem mixedDisk_locate_a (modified : Int) :
    (mixedDisk modified).locate ⟨.root, ["a.py"]⟩ = .ok (["a.py"], .file .empty modified) :=
  FileSystem.locate_entry rfl (by simp) (by decide)

theorem mixedDisk_locate_b (modified : Int) :
    (mixedDisk modified).locate ⟨.root, ["b.bin"]⟩ = .ok (["b.bin"], .file ⟨#[255]⟩ 0) :=
  FileSystem.locate_entry rfl (by simp) (by decide)

theorem mixedDisk_walk (modified : Int) :
    (mixedDisk modified).walk? metricsWalk ⟨.root, []⟩ =
      some [.ok ⟨.root, ["a.py"]⟩, .ok ⟨.root, ["b.bin"]⟩] := by
  have hroot : (mixedDisk modified).locate ⟨.root, []⟩ = .ok ([], .directory (mixedEntries modified)) :=
    FileSystem.locate_root _
  refine walk?_of_files hroot (by simp [mixedEntries]) (by simp [mixedEntries]) ?_
  simp only [mixedEntries, List.forall_mem_cons, List.not_mem_nil, false_imp_iff, implies_true, and_true]
  exact ⟨visitFile_of_locate (mixedDisk_locate_a modified) rfl (by simp [metricsWalk]),
    visitFile_of_locate (mixedDisk_locate_b modified) rfl (by simp [metricsWalk])⟩

theorem mixedDisk_readable (modified : Int) :
    (mixedDisk modified).readableBelow ⟨.root, []⟩ = [⟨.root, ["a.py"]⟩] := by
  have hempty : Text.decodeUtf8 ByteArray.empty.toList = .ok [] := by decide +kernel
  have hinvalid : Text.decodeUtf8 (ByteArray.mk #[255]).toList = .error ⟨0, [255], .invalidStart⟩ := by
    decide +kernel
  have ha : ((mixedDisk modified).readText ⟨.root, ["a.py"]⟩).toOption.isSome = true := by
    rw [FileSystem.readText_of_locate (mixedDisk_locate_a modified) hempty]
    rfl
  have hb : ((mixedDisk modified).readText ⟨.root, ["b.bin"]⟩).toOption.isSome = false := by
    simp [FileSystem.readText, FileSystem.readBytes_of_locate (mixedDisk_locate_b modified), hinvalid,
      Except.toOption]
  unfold FileSystem.readableBelow
  rw [mixedDisk_walk]
  show List.filter _ [(⟨.root, ["a.py"]⟩ : Path), ⟨.root, ["b.bin"]⟩] = _
  simp [ha, hb]

theorem mixedDisk_isDated {modified : Int} :
    (mixedDisk modified).IsDated ⟨.root, ["a.py"]⟩ ↔ firstDated ≤ modified ∧ modified ≤ lastDated := by
  unfold FileSystem.IsDated
  rw [FileSystem.stat_of_locate (mixedDisk_locate_a modified)]
  simp

theorem mixedDisk_resolve (modified : Int) :
    (mixedDisk modified).resolveWorkspace "/" ⟨.root, []⟩ = .ok ⟨.root, []⟩ :=
  FileSystem.resolveWorkspace_root rfl

/-- A file of the last time that is a date, beside one that cannot be read. -/
theorem metrics_run_succeeds_at_lastDated :
    succeeded (analyzeMetrics (mixedDisk lastDated) wholeDisk).2 = true ∧
      ∃ shown, ShownMetrics.read? (analyzeMetrics (mixedDisk lastDated) wholeDisk).2 = some shown ∧
        shown.files.map ShownMeasure.path = ["/a.py"] := by
  obtain ⟨hiff, hreport, _⟩ := metrics_run_succeeds_iff_dated (mixedDisk lastDated) wholeDisk wholeDisk_read
    (mixedDisk_resolve lastDated)
  have hdated : ∀ path ∈ (mixedDisk lastDated).readableBelow ⟨.root, []⟩, (mixedDisk lastDated).IsDated path := by
    rw [mixedDisk_readable]
    simpa using mixedDisk_isDated.mpr (by decide)
  obtain ⟨_, _, _, _, shown, hshown, hcovers⟩ := hreport hdated
  refine ⟨hiff.mpr hdated, shown, hshown, ?_⟩
  have hfiles := hcovers.files
  rw [mixedDisk_readable] at hfiles
  obtain ⟨entry, rest, ⟨hpath, _⟩, hrest, hshownFiles⟩ := List.forall₂_cons_left_iff.mp hfiles
  obtain rfl := List.forall₂_nil_left_iff.mp hrest
  rw [hshownFiles]
  simp only [List.map_cons, List.map_nil, hpath]
  rfl

/-- One file of a later time, in an existing workspace and under accepted settings, and there is no report. -/
theorem metrics_run_fails_after_lastDated :
    (Settings.read wholeDisk).2 = .ok ⟨⟨.root, []⟩, .defaults, none, none, true⟩ ∧
      (mixedDisk (lastDated + 1)).resolveWorkspace "/" ⟨.root, []⟩ = .ok ⟨.root, []⟩ ∧
      succeeded (analyzeMetrics (mixedDisk (lastDated + 1)) wholeDisk).2 = false := by
  refine ⟨wholeDisk_read, mixedDisk_resolve _, ?_⟩
  have hundated : ¬(mixedDisk (lastDated + 1)).IsDated ⟨.root, ["a.py"]⟩ := by
    rw [mixedDisk_isDated]
    decide
  rw [← Bool.not_eq_true, analyzeMetrics_succeeded_iff wholeDisk_read (mixedDisk_resolve _),
    mixedDisk_readable]
  simpa using hundated

end CodeCensus
