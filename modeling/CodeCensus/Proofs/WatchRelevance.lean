import CodeCensus.Proofs.SuccessfulRuns
import CodeCensus.Proofs.WalkedFiles

/-!
# Relevant changes

A watcher never looks at the tree: it tells from its path alone whether a changed file matters. It does so
for exactly the files that the next walk of the command would find, its own output apart.

## Contents
- `Command.walkOptions` — the walk of a command;
- `NamesFile` — a path that names a regular file through real directories;
- `isRelevant_eq_true` — which paths are relevant;
- `RelevanceAgrees`, `relevance_agrees_with_walk` — what is relevant is what is walked.
-/

namespace CodeCensus

/-- Which files the analysis of a command walks. -/
def Command.walkOptions (command : Command) (settings : Settings) : WalkOptions :=
  match command with
  | .duplicates => duplicateWalk settings
  | .metrics => metricsWalk

/-- The path names a regular file below the directory at `root`. All names but the last are those of real
    directories; the last may be that of a link. -/
def NamesFile (fs : FileSystem) (root p : Path) (info : FileInfo) : Prop :=
  ∃ place entries names n, fs.locate root = .ok (place, .directory entries) ∧ p = root.below names ∧
    Reaches (fun _ => True) (.directory entries) names n ∧ n.isDirectory = false ∧
    fs.stat p = .ok info ∧ info.isRegular = true

/-- The rules of a watcher agree with a walk of the tree as it is now: what is found there is relevant, save
    for the output file, what is relevant and could be found is found, and the output file is not relevant. -/
structure RelevanceAgrees (now : FileSystem) (options : WalkOptions) (rules : WatchRules)
    (output : Option Path) : Prop where
  found_relevant : ∀ p ∈ foundPaths ((now.walk? options rules.root).getD []), output ≠ some p →
    rules.isRelevant p = true
  relevant_found : ∀ p info, rules.isRelevant p = true → NamesFile now rules.root p info →
    (∀ limit, options.maxSize = some limit → (info.size : Int) ≤ limit) →
      p ∈ foundPaths ((now.walk? options rules.root).getD [])
  output_irrelevant : ∀ p, output = some p → rules.isRelevant p = false

section Rules

variable {fs now : FileSystem} {plan : Plan} {settings : Settings} {root p : Path}

/-- A path is relevant if it lies below the root, inside directories that are entered, and is accepted. -/
theorem isRelevant_eq_true {rules : WatchRules} :
    rules.isRelevant p = true ↔ ∃ names, names ≠ [] ∧ p = rules.root.below names ∧
      (∀ name ∈ names.dropLast, Entered rules.skips name) ∧ rules.accepts p = true := by
  unfold WatchRules.isRelevant
  constructor
  · intro h
    cases hrest : p.relativeTo? rules.root with
    | none => simp [hrest] at h
    | some rest =>
        have hp := (Path.relativeTo?_eq_some.mp hrest).1
        simp only [hrest, Bool.and_eq_true, Bool.not_eq_true', List.isEmpty_eq_false_iff,
          List.any_eq_false, Bool.not_eq_true, skipsDirectory_eq_false] at h
        exact ⟨rest.parts, h.1.1, hp, h.1.2, h.2⟩
  · rintro ⟨names, hne, rfl, henters, haccepts⟩
    simp only [Path.relativeTo?_below, Bool.and_eq_true, Bool.not_eq_true',
      List.isEmpty_eq_false_iff, List.any_eq_false, Bool.not_eq_true, skipsDirectory_eq_false]
    exact ⟨⟨hne, henters⟩, haccepts⟩

/-- A watcher accepts what the walk accepts, and not the output file. -/
theorem watchAccepts_eq_true (settings : Settings) {command : Command} {output : Option Path} :
    watchAccepts command output p = true ↔
      output ≠ some p ∧ (command.walkOptions settings).accepts p = true := by
  cases command <;> simp [watchAccepts, Command.walkOptions, duplicateWalk, metricsWalk]

theorem walkOptions_skips (command : Command) : (command.walkOptions settings).skips = defaultSkips := by
  cases command <;> rfl

/-- What a path leads to when it is known to be a regular file. -/
theorem not_directory_of_regular {info : FileInfo} (hstat : fs.stat p = .ok info)
    (hregular : info.isRegular = true) {place : List String} {m : Node}
    (hlocate : fs.locate p = .ok (place, m)) : m.isDirectory = false := by
  simp only [FileSystem.stat, hlocate, Except.ok.injEq] at hstat
  cases m with
  | directory entries => subst hstat; cases hregular
  | closed => subst hstat; cases hregular
  | file content modified => rfl
  | link target => rfl
  | pipe => rfl

/-- **The rules agree with the walk** of every tree, whatever was changed since they were made. -/
theorem watchRules_agree (htree : now.tree.IsTree) (settings : Settings) :
    RelevanceAgrees now (plan.command.walkOptions settings) (watchRules plan fs root)
      (plan.outputPath? fs) where
  found_relevant p hfound houtput := by
    rw [isRelevant_eq_true]
    change p ∈ foundPaths ((now.walk? _ root).getD []) at hfound
    unfold FileSystem.walk? at hfound
    split at hfound
    next place m hroot =>
      split at hfound
      case isFalse hleaf => exact absurd hfound List.not_mem_nil
      have hdir := (FileSystem.isTree_of_locate htree hroot).2
      obtain ⟨names, n, hp, hreach, htaken⟩ := (mem_walkNode hdir).mp hfound
      rw [walkOptions_skips, Reaches.iff_of_all] at hreach
      exact ⟨names, hreach.1.names_ne_nil, hp, hreach.2,
        (watchAccepts_eq_true settings).mpr ⟨houtput, htaken.accepted⟩⟩
    next => exact absurd hfound List.not_mem_nil
  relevant_found p info hrelevant hnames hsize := by
    obtain ⟨names, _, hp, henters, haccepts⟩ := isRelevant_eq_true.mp hrelevant
    obtain ⟨place, entries, names', n, hroot, hp', hreach, hfile, hstat, hregular⟩ := hnames
    obtain rfl : names = names' := root.below_injective (hp.symm.trans hp')
    have hdir := (FileSystem.isTree_of_locate htree hroot).2
    change p ∈ foundPaths ((now.walk? _ root).getD [])
    have hwalk : now.walk? (plan.command.walkOptions settings) root =
        some (now.walkNode (plan.command.walkOptions settings) root (.directory entries)) := by
      change now.locate root = _ at hroot
      simp [FileSystem.walk?, hroot, Node.isDirectory]
    rw [hwalk, Option.getD_some, mem_walkNode hdir]
    refine ⟨names, n, hp, ?_, hfile, ?_, ?_, info, hstat, hregular, hsize⟩
    · rw [walkOptions_skips]
      exact Reaches.iff_of_all.mpr ⟨hreach, henters⟩
    · intro target _ place m hlocate
      exact not_directory_of_regular hstat hregular hlocate
    · exact ((watchAccepts_eq_true settings).mp haccepts).2
  output_irrelevant p houtput := by
    rw [← Bool.not_eq_true, isRelevant_eq_true]
    rintro ⟨names, _, _, _, haccepts⟩
    exact ((watchAccepts_eq_true settings).mp haccepts).1 houtput

end Rules

/-- **What is relevant is what is walked.** When a command line has come to watching, the directory that is
    watched is the resolved workspace of its report, and for every tree that may be found there later the
    rules agree with the walk of the command. -/
theorem relevance_agrees_with_walk (plan : Plan) (c after : Console) (root : Path)
    (htree : c.fs.tree.IsTree) (hstart : startPlan plan c = (after, .watching plan root)) :
    ∃ settings, (Settings.read (plan.options.settings plan.arguments.path)).2 = .ok settings ∧
      c.fs.resolveWorkspace settings.workspace.text settings.workspace = .ok root ∧
      ∀ now : FileSystem, now.tree.IsTree →
        RelevanceAgrees now (plan.command.walkOptions settings) (watchRules plan after.fs root)
          (plan.outputPath? after.fs) := by
  obtain ⟨hsucceeded, rfl⟩ := startPlan_watching hstart
  obtain ⟨settings, hread, hroot⟩ := Plan.report_succeeded htree hsucceeded
  exact ⟨settings, hread, hroot, fun now hnow => watchRules_agree hnow settings⟩

/-- A watched duplicate search that writes its report into the workspace, to a file that a search reads. -/
def watchedSearch : Plan where
  command := .duplicates
  arguments := { path := "/ws", output := some "report.py", watch := true }
  options := ⟨[], .null, none, none⟩
  host := ⟨fun _ => false, .ofInt 0, fun _ => .ofInt 0, 1, fun _ _ => 0⟩

theorem watchedSearch_report : ∃ report : DuplicateReport,
    (watchedSearch.report linkedWorkspace).2 = report.toValue ∧ report.workspace = ⟨.root, ["ws"]⟩ := by
  have hread : (Settings.read (watchedSearch.options.settings "/ws")).2 =
      .ok ⟨⟨.root, ["ws"]⟩, .defaults, none, none, true⟩ := rfl
  have hroot : linkedWorkspace.resolveWorkspace "/ws" ⟨.root, ["ws"]⟩ = .ok ⟨.root, ["ws"]⟩ :=
    FileSystem.resolveWorkspace_eq_ok.mpr ⟨_, _, _, rfl, linkedWorkspace_locate, rfl, rfl⟩
  exact findDuplicates_succeeds hread hroot rfl

theorem watchedSearch_write (content : ByteArray) : ∃ fs,
    linkedWorkspace.write "report.py" content = .ok (["ws", "report.py"], fs) := by
  have hnames : rawNames "report.py" = ["report.py"] := by decide
  have hstart : FileSystem.startFrom linkedWorkspace.current "report.py" = ["ws"] := by decide
  have hslash : endsInSlash "report.py" = false := by decide
  have hshort : ¬ FileSystem.maxNameBytes < "report.py".utf8ByteSize := by decide
  have hchild : (Node.directory linkedEntries).child? "report.py" = none := rfl
  have hdir : linkedWorkspace.directoryAt FileSystem.maxLinks ["ws"] [] =
      .ok (["ws"], .directory linkedEntries) := by
    rw [FileSystem.directoryAt, FileSystem.follow]
    rfl
  have hplace : linkedWorkspace.placeFor FileSystem.maxLinks linkedWorkspace.current "report.py" =
      .ok ["ws", "report.py"] := by
    rw [FileSystem.placeFor, hnames]
    simp [hstart, hdir, hchild, hslash, hshort, bind, Except.bind, pure, Except.pure]
  have htext : FileSystem.textFault? "report.py" = none := by decide
  simp [FileSystem.write, hplace, htext, bind, Except.bind, pure, Except.pure]

theorem watchedSearch_watching : ∃ after,
    startPlan watchedSearch (.fresh linkedWorkspace) =
      (after, .watching watchedSearch ⟨.root, ["ws"]⟩) := by
  obtain ⟨report, hvalue, hworkspace⟩ := watchedSearch_report
  obtain ⟨fs, hwrite⟩ := watchedSearch_write (withLineEnd report.toValue.jsonText).toUTF8
  have hformat : formatReport linkedWorkspace watchedSearch.command watchedSearch.arguments
      report.toValue = ([], .ok report.toValue.jsonText) := rfl
  have houtput : filled watchedSearch.arguments.output = some "report.py" := by decide
  have hanalyze : ∃ after, analyzeOnce watchedSearch (.fresh linkedWorkspace) =
      (after, .ok report.toValue) := by
    simp only [analyzeOnce, Console.fresh, Console.log, hvalue, hformat, writeOutput, houtput, hwrite]
    exact ⟨_, rfl⟩
  have hroot : reportedWorkspace report.toValue = ⟨.root, ["ws"]⟩ := by
    rw [DuplicateReport.reportedWorkspace_toValue, hworkspace]
    exact Path.parse_text (by decide)
  have hwatch : watchedSearch.arguments.watch = true := rfl
  obtain ⟨after, hanalyze⟩ := hanalyze
  refine ⟨after, ?_⟩
  simp [startPlan, hanalyze, hroot, hwatch]

theorem relevance_agrees_with_walk_own_output :
    linkedWorkspace.tree.IsTree ∧ ∃ after,
      startPlan watchedSearch (.fresh linkedWorkspace) =
        (after, .watching watchedSearch ⟨.root, ["ws"]⟩) ∧
      ∃ settings, (Settings.read (watchedSearch.options.settings "/ws")).2 = .ok settings ∧
        linkedWorkspace.resolveWorkspace settings.workspace.text settings.workspace =
          .ok ⟨.root, ["ws"]⟩ ∧
        ∀ now : FileSystem, now.tree.IsTree →
          RelevanceAgrees now (duplicateWalk settings)
            (watchRules watchedSearch after.fs ⟨.root, ["ws"]⟩) (watchedSearch.outputPath? after.fs) := by
  obtain ⟨after, hstart⟩ := watchedSearch_watching
  exact ⟨linkedWorkspace_isTree, after, hstart,
    relevance_agrees_with_walk watchedSearch _ after _ linkedWorkspace_isTree hstart⟩

end CodeCensus
