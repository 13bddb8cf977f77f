import CodeCensus.CommandLine.Run
import CodeCensus.Proofs.TreePlaces

/-!
# Successful runs

A report that says it succeeded was made under accepted settings, in a workspace that could be resolved. The
text of the workspace in the report names the directory that was walked, as long as the names on the disk
are plain.

## Contents
- `FileSystem.resolveWorkspace_eq_ok` — what the resolved workspace is;
- `wholeDisk` — the whole disk as a workspace;
- `runDuplicates_eq_ok`, `runMetrics_workspace` — what a successful run comes from;
- `findDuplicates_succeeds` — when there is a duplicate report;
- `findDuplicates_succeeded`, `analyzeMetrics_succeeded` — the values of reports that say they succeeded;
- `Plan.report_succeeded`, `startPlan_watching` — the workspace that a report names, and that is watched.
-/

namespace CodeCensus

variable {fs : FileSystem} {settings : Settings}

/-! ## Workspaces -/

/-- A workspace is resolved to the real place of a directory. -/
theorem FileSystem.resolveWorkspace_eq_ok {given : String} {p root : Path} :
    fs.resolveWorkspace given p = .ok root ↔
      ∃ expanded place n, fs.expandHome p = .ok expanded ∧
        fs.locate expanded = .ok (place, n) ∧ n.isDirectory = true ∧ root = ⟨.root, place⟩ := by
  unfold FileSystem.resolveWorkspace
  cases hexpand : fs.expandHome p with
  | error e => simp [bind, Except.bind]
  | ok expanded =>
      simp only [bind, Except.bind, pure, Except.pure, throw, throwThe, MonadExceptOf.throw]
      cases hlocate : fs.locate expanded with
      | error fault => simp [hlocate]
      | ok found =>
          obtain ⟨place, n⟩ := found
          by_cases hdir : n.isDirectory = true
          · simp [hlocate, hdir, @eq_comm _ root]
          · simp [hlocate, hdir]

/-- The whole disk as a workspace. -/
theorem FileSystem.resolveWorkspace_root (hdir : fs.tree.isDirectory = true) :
    fs.resolveWorkspace "/" ⟨.root, []⟩ = .ok ⟨.root, []⟩ :=
  resolveWorkspace_eq_ok.mpr ⟨_, _, _, rfl, locate_root fs, hdir, rfl⟩

theorem FileSystem.plain_of_resolveWorkspace (htree : fs.tree.IsTree) {given : String} {p root : Path}
    (h : fs.resolveWorkspace given p = .ok root) : ∀ name ∈ root.parts, PlainName name := by
  obtain ⟨expanded, place, n, _, hlocate, _, rfl⟩ := resolveWorkspace_eq_ok.mp h
  exact (isTree_of_locate htree hlocate).1

/-- The settings of a run over the whole disk. -/
def wholeDisk : RawSettings := { workspace := .text "/" }

theorem wholeDisk_read :
    (Settings.read wholeDisk).2 = .ok ⟨⟨.root, []⟩, .defaults, none, none, true⟩ := rfl

/-! ## Runs -/

/-- A successful duplicate run reports on what it gathered from its walk. -/
theorem runDuplicates_eq_ok {host : RunHost} {report : DuplicateReport} :
    (runDuplicates fs host settings).2 = .ok report ↔
      ∃ root stopped, fs.resolveWorkspace settings.workspace.text settings.workspace = .ok root ∧
        host.check settings.timeout 0 = .ok stopped ∧
        report = (reportDuplicates host settings root
          (foundPaths ((fs.walk? (duplicateWalk settings) root).getD [])).length
          (analyzeFiles root (analyzeSource fs (settings.thresholds.int .minLines).toNat root)
            (foundPaths ((fs.walk? (duplicateWalk settings) root).getD []))).results).2 := by
  unfold runDuplicates
  cases hroot : fs.resolveWorkspace settings.workspace.text settings.workspace with
  | error e => simp
  | ok root =>
      cases hcheck : host.check settings.timeout 0 with
      | error fault => simp
      | ok stopped => simp [eq_comm]

/-- A successful metrics run names the resolved workspace. -/
theorem runMetrics_workspace {report : MetricsReport} (h : (runMetrics fs settings).2 = .ok report) :
    fs.resolveWorkspace settings.workspace.text settings.workspace = .ok report.workspace := by
  unfold runMetrics at h
  cases hroot : fs.resolveWorkspace settings.workspace.text settings.workspace with
  | error e => simp [hroot] at h
  | ok root =>
      simp only [hroot, reportMetrics] at h
      split at h
      next => cases h
      next => cases h; rfl

/-! ## Reports as values -/

@[simp] theorem DuplicateReport.succeeded_toValue (r : DuplicateReport) : succeeded r.toValue = true := by
  simp [succeeded, DuplicateReport.toValue, Value.truthy]

@[simp] theorem DuplicateReport.reportedWorkspace_toValue (r : DuplicateReport) :
    reportedWorkspace r.toValue = Path.parse r.workspace.text := by
  simp [reportedWorkspace, DuplicateReport.toValue, Value.display]

@[simp] theorem MetricsReport.reportedWorkspace_toValue (r : MetricsReport) :
    reportedWorkspace r.toValue = Path.parse r.workspace.text := by
  simp [reportedWorkspace, MetricsReport.toValue, Value.display]

/-- A search under accepted settings succeeds if its workspace can be resolved and its time limit used. -/
theorem findDuplicates_succeeds {host : RunHost} {raw : RawSettings} {root : Path} {stopped : Bool}
    (hread : (Settings.read raw).2 = .ok settings)
    (hroot : fs.resolveWorkspace settings.workspace.text settings.workspace = .ok root)
    (hcheck : host.check settings.timeout 0 = .ok stopped) :
    ∃ report : DuplicateReport, (findDuplicates fs host raw).2 = report.toValue ∧
      report.workspace = root := by
  obtain ⟨report, hrun⟩ : ∃ report, (runDuplicates fs host settings).2 = .ok report :=
    ⟨_, runDuplicates_eq_ok.mpr ⟨root, stopped, hroot, hcheck, rfl⟩⟩
  have hworkspace : report.workspace = root := by
    obtain ⟨root', _, hroot', _, rfl⟩ := runDuplicates_eq_ok.mp hrun
    exact Except.ok.inj (hroot'.symm.trans hroot)
  refine ⟨report, ?_, hworkspace⟩
  unfold findDuplicates
  rcases hsettings : Settings.read raw with ⟨notices, _ | accepted⟩
  · simp [hsettings] at hread
  · obtain rfl : accepted = settings := by simpa [hsettings] using hread
    rcases hresult : runDuplicates fs host accepted with ⟨more, _ | made⟩
    · simp [hresult] at hrun
    · obtain rfl : made = report := by simpa [hresult] using hrun
      simp [hresult]

/-- A duplicate report that says it succeeded is the value of a successful run. -/
theorem findDuplicates_succeeded {host : RunHost} {raw : RawSettings}
    (h : succeeded (findDuplicates fs host raw).2 = true) :
    ∃ settings report, (Settings.read raw).2 = .ok settings ∧
      (runDuplicates fs host settings).2 = .ok report ∧
      (findDuplicates fs host raw).2 = report.toValue := by
  unfold findDuplicates at h ⊢
  rcases hread : Settings.read raw with ⟨notices, _ | settings⟩
  · simp [hread, succeeded, DuplicateReport.failureValue, Value.truthy] at h
  · rcases hrun : runDuplicates fs host settings with ⟨more, _ | report⟩
    · simp [hread, hrun, succeeded, DuplicateReport.failureValue, Value.truthy] at h
    · exact ⟨settings, report, rfl, by rw [hrun], by simp [hrun]⟩

/-- A metrics report that says it succeeded is the value of a successful run. -/
theorem analyzeMetrics_succeeded {raw : RawSettings}
    (h : succeeded (analyzeMetrics fs raw).2 = true) :
    ∃ settings report, (Settings.read raw).2 = .ok settings ∧
      (runMetrics fs settings).2 = .ok report ∧ (analyzeMetrics fs raw).2 = report.toValue := by
  unfold analyzeMetrics at h ⊢
  rcases hread : Settings.read raw with ⟨notices, _ | settings⟩
  · simp [hread, succeeded, MetricsReport.failureValue, Value.truthy] at h
  · rcases hrun : runMetrics fs settings with ⟨more, _ | report⟩
    · simp [hread, hrun, succeeded, MetricsReport.failureValue, Value.truthy] at h
    · exact ⟨settings, report, rfl, by rw [hrun], by simp [hrun]⟩

/-- **The workspace of a report.** Under a plan, a report that says it succeeded was made under accepted
    settings and names the resolved workspace, whose path is read back from the report. -/
theorem Plan.report_succeeded {plan : Plan} (htree : fs.tree.IsTree)
    (h : succeeded (plan.report fs).2 = true) :
    ∃ settings, (Settings.read (plan.options.settings plan.arguments.path)).2 = .ok settings ∧
      fs.resolveWorkspace settings.workspace.text settings.workspace =
        .ok (reportedWorkspace (plan.report fs).2) := by
  have hparse : ∀ {settings : Settings} {root : Path},
      fs.resolveWorkspace settings.workspace.text settings.workspace = .ok root →
        Path.parse root.text = root := fun hroot =>
    Path.parse_text (FileSystem.plain_of_resolveWorkspace htree hroot)
  unfold Plan.report at h ⊢
  cases hcommand : plan.command with
  | duplicates =>
      simp only [hcommand] at h ⊢
      obtain ⟨settings, report, hread, hrun, hvalue⟩ := findDuplicates_succeeded h
      obtain ⟨root, stopped, hroot, _, rfl⟩ := runDuplicates_eq_ok.mp hrun
      refine ⟨settings, hread, ?_⟩
      rw [hvalue, DuplicateReport.reportedWorkspace_toValue]
      exact hroot.trans (congrArg _ (hparse hroot).symm)
  | metrics =>
      simp only [hcommand] at h ⊢
      obtain ⟨settings, report, hread, hrun, hvalue⟩ := analyzeMetrics_succeeded h
      have hroot := runMetrics_workspace hrun
      refine ⟨settings, hread, ?_⟩
      rw [hvalue, MetricsReport.reportedWorkspace_toValue, hparse hroot, hroot]

/-- A plan that comes to watching had a report that says it succeeded, and watches the workspace that the
    report names. -/
theorem startPlan_watching {plan watched : Plan} {c after : Console} {root : Path}
    (h : startPlan plan c = (after, .watching watched root)) :
    succeeded (plan.report c.fs).2 = true ∧ root = reportedWorkspace (plan.report c.fs).2 := by
  unfold startPlan at h
  rcases hanalyze : analyzeOnce plan c with ⟨c', _ | report⟩
  · simp [hanalyze] at h
  · have hreport : report = (plan.report c.fs).2 := by
      unfold analyzeOnce at hanalyze
      simp only at hanalyze
      split at hanalyze
      next => simp at hanalyze
      next =>
        split at hanalyze
        next => simp at hanalyze
        next => simpa [eq_comm] using (Prod.mk.inj hanalyze).2
    simp only [hanalyze] at h
    split at h
    next => simp at h
    next hsucceeded =>
      split at h
      next =>
        simp only [Prod.mk.injEq, Started.watching.injEq] at h
        obtain ⟨_, rfl, rfl⟩ := h
        rw [Bool.not_eq_true', Bool.not_eq_false] at hsucceeded
        exact ⟨hreport ▸ hsucceeded, by rw [hreport]⟩
      next => simp at h

end CodeCensus
