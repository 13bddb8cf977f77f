import CodeCensus.Proofs.CollectedEntries
import CodeCensus.Proofs.ShownMetrics
import CodeCensus.Proofs.TreePlaces
import Mathlib.Algebra.Order.Ring.Int

/-!
# Totals of a metrics run

Each file that is taken in goes into three accounts at once: the summary of the workspace, the totals of its
language, and the list of large files when it is one. Complexity is worked out afterwards, from the files that
were kept. The accounts stay in step over every sequence of files. In the sections that they give to a report,
the totals are sums over the languages and over the files, and the lists have an entry for each file that passes
their limit, in the order in which the files came.

## Contents
- `measureFile_eq_ok` — when a file is measured;
- `countLines_total`, `measureFile_balanced` — every line of a measured file is of one kind;
- `LanguageTotals.SumsOver`, `Summary.SumsOver` — figures as sums over files;
- `FileMetrics.largeReason_ne_empty` — a large file has a reason;
- `Aggregate.Holds` — what is known of the accounts, with its step `Holds.add` and its run `ofFiles_holds`;
- `Aggregate.foldlM_tryAdd` — the accounts of files whose figures are checked;
- `ShownLargeFile.Tells`, `ShownComplexFile.Tells` — the entry of a file in a list;
- `ShownSections.TotalsAgree`, `metrics_totals_agree` — the sections agree.
-/

namespace CodeCensus

/-! ## Kinds of lines -/

/-- The number of lines of all kinds. -/
def LineCounts.total (counts : LineCounts) : Nat := counts.code + counts.comment + counts.blank

theorem LineCounts.total_add (counts : LineCounts) (kind : LineKind) :
    (counts.add kind).total = counts.total + 1 := by
  cases kind <;> simp only [LineCounts.add, LineCounts.total] <;> omega

/-- Every line is of one kind. -/
theorem countLines_total (profile : Profile) (lines : List String) :
    (countLines profile lines).total = lines.length := by
  unfold countLines
  induction lines using List.reverseRecOn with
  | nil => rfl
  | append_singleton lines line ih =>
      rw [List.foldl_append, List.foldl_cons, List.foldl_nil, LineCounts.total_add, ih,
        List.length_append, List.length_singleton]

/-- The lines of the file are its code, comment and blank lines. -/
def FileMetrics.Balanced (m : FileMetrics) : Prop :=
  m.lines = m.codeLines + m.commentLines + m.blankLines

theorem measureFile_eq_ok {fs : FileSystem} {table : LanguageTable} {root path : Path} {m : FileMetrics} :
    measureFile fs table root path = .ok m ↔
      ∃ info content, fs.stat path = .ok info ∧ fs.readText path = .ok content ∧
        m = FileMetrics.ofContent table path root info.size (secondsOf info.modified) content := by
  unfold measureFile
  cases hstat : fs.stat path with
  | error e => simp [bind, Except.bind]
  | ok info =>
      cases hread : fs.readText path with
      | error e => simp [bind, Except.bind]
      | ok content => simp [bind, Except.bind, pure, Except.pure, eq_comm]

theorem measureFile_balanced {fs : FileSystem} {table : LanguageTable} {root path : Path}
    {m : FileMetrics} (h : measureFile fs table root path = .ok m) : m.Balanced := by
  obtain ⟨_, content, _, _, rfl⟩ := measureFile_eq_ok.mp h
  have htotal := countLines_total (table.profile (table.classify path)) (Text.splitLines content)
  unfold LineCounts.total at htotal
  simp only [FileMetrics.Balanced, FileMetrics.ofContent, measureContent]
  omega

/-! ## Sums over files -/

/-- The figures of a language are sums over its files. -/
structure LanguageTotals.SumsOver (files : List FileMetrics) (t : LanguageTotals) : Prop where
  files_eq : t.files = files.length
  lines_eq : t.lines = (files.map FileMetrics.lines).sum
  code_eq : t.codeLines = (files.map FileMetrics.codeLines).sum
  comment_eq : t.commentLines = (files.map FileMetrics.commentLines).sum
  blank_eq : t.blankLines = (files.map FileMetrics.blankLines).sum
  size_eq : t.sizeBytes = (files.map FileMetrics.sizeBytes).sum
  functions_eq : t.functions = (files.map FileMetrics.functions).sum
  classes_eq : t.classes = (files.map FileMetrics.classes).sum

theorem LanguageTotals.sumsOver_foldl (files : List FileMetrics) :
    (files.foldl LanguageTotals.add .zero).SumsOver files := by
  induction files using List.reverseRecOn with
  | nil => exact ⟨rfl, rfl, rfl, rfl, rfl, rfl, rfl, rfl⟩
  | append_singleton files m ih =>
      rw [List.foldl_append, List.foldl_cons, List.foldl_nil]
      constructor <;> simp only [LanguageTotals.add, List.map_append, List.sum_append, List.map_cons,
        List.map_nil, List.sum_cons, List.sum_nil, add_zero, List.length_append, List.length_singleton]
      · rw [ih.files_eq]
      · rw [ih.lines_eq]
      · rw [ih.code_eq]
      · rw [ih.comment_eq]
      · rw [ih.blank_eq]
      · rw [ih.size_eq]
      · rw [ih.functions_eq]
      · rw [ih.classes_eq]

/-- The totals of a summary are sums over the files, and the other figures count the files that pass a
    limit. -/
structure Summary.SumsOver (t : Thresholds) (files : List FileMetrics) (s : Summary) : Prop where
  files_eq : s.totalFiles = files.length
  lines_eq : s.totalLines = (files.map FileMetrics.lines).sum
  code_eq : s.totalCodeLines = (files.map FileMetrics.codeLines).sum
  comment_eq : s.totalCommentLines = (files.map FileMetrics.commentLines).sum
  blank_eq : s.totalBlankLines = (files.map FileMetrics.blankLines).sum
  size_eq : s.totalSizeBytes = (files.map FileMetrics.sizeBytes).sum
  large_eq : s.largeFiles = (files.filter (·.isLarge t)).length
  veryLarge_eq : s.veryLargeFiles = (files.filter (·.isVeryLarge t)).length

theorem length_filter_concat (p : FileMetrics → Bool) (files : List FileMetrics) (m : FileMetrics) :
    ((files ++ [m]).filter p).length = (files.filter p).length + if p m then 1 else 0 := by
  by_cases hp : p m = true
  · simp [List.filter_append, hp]
  · simp [List.filter_append, hp]

theorem Summary.SumsOver.add {t : Thresholds} {files : List FileMetrics} {s : Summary}
    (h : s.SumsOver t files) (m : FileMetrics) : (s.add t m).SumsOver t (files ++ [m]) := by
  constructor <;> simp only [Summary.add, List.map_append, List.sum_append, List.map_cons,
    List.map_nil, List.sum_cons, List.sum_nil, add_zero, List.length_append, List.length_singleton,
    length_filter_concat]
  · rw [h.files_eq]
  · rw [h.lines_eq]
  · rw [h.code_eq]
  · rw [h.comment_eq]
  · rw [h.blank_eq]
  · rw [h.size_eq]
  · rw [h.large_eq]
  · rw [h.veryLarge_eq]

/-! ## Reasons -/

namespace FileMetrics

variable {m : FileMetrics} {t : Thresholds}

theorem largeReasons_ne_nil (h : m.isLarge t = true) : m.largeReasons t ≠ [] := by
  unfold isLarge at h
  unfold largeReasons
  rw [Bool.or_eq_true] at h
  intro hnil
  obtain ⟨hlines, hsize⟩ := List.append_eq_nil_iff.mp hnil
  rcases h with h | h
  · rw [if_pos h] at hlines
    split at hlines <;> cases hlines
  · rw [if_pos h] at hsize
    split at hsize <;> cases hsize

theorem ne_empty_of_mem_largeReasons {reason : String} (h : reason ∈ m.largeReasons t) : reason ≠ "" := by
  have hlines : ∀ label key, m.linesReason t label key ≠ "" := by
    intro label key
    simp [linesReason, String.append_eq_empty_iff]
  have hsize : ∀ label key, m.sizeReason t label key ≠ "" := by
    intro label key
    simp [sizeReason, String.append_eq_empty_iff]
  unfold largeReasons at h
  rcases List.mem_append.mp h with h | h
  · split at h
    next => exact List.mem_singleton.mp h ▸ hlines _ _
    next =>
      split at h
      next => exact List.mem_singleton.mp h ▸ hlines _ _
      next => exact absurd h List.not_mem_nil
  · split at h
    next => exact List.mem_singleton.mp h ▸ hsize _ _
    next =>
      split at h
      next => exact List.mem_singleton.mp h ▸ hsize _ _
      next => exact absurd h List.not_mem_nil

/-- **A large file has a reason.** -/
theorem largeReason_ne_empty (h : m.isLarge t = true) : m.largeReason t ≠ "" := by
  unfold largeReason
  match hreasons : m.largeReasons t with
  | [] => exact absurd hreasons (largeReasons_ne_nil h)
  | reason :: others =>
      have hreason : reason ≠ "" := by
        apply ne_empty_of_mem_largeReasons (m := m) (t := t)
        rw [hreasons]
        exact List.mem_cons_self
      cases others with
      | nil => simpa using hreason
      | cons next rest =>
          rw [String.intercalate_cons_cons]
          simp [String.append_eq_empty_iff, hreason]

end FileMetrics

/-! ## The accounts -/

namespace Aggregate

/-- What is known of the accounts after files were taken in under some thresholds. -/
structure Holds (t : Thresholds) (files : List FileMetrics) (a : Aggregate) : Prop where
  thresholds_eq : a.thresholds = t
  files_eq : a.files = files
  languages_eq : a.languages = collect FileMetrics.language LanguageTotals.zero LanguageTotals.add files
  large_eq : a.largeFiles = files.filter (·.isLarge t)
  summary : a.summary.SumsOver t files

variable {t : Thresholds} {files : List FileMetrics} {a : Aggregate}

theorem holds_empty (t : Thresholds) : (empty t).Holds t [] :=
  ⟨rfl, rfl, rfl, rfl, ⟨rfl, rfl, rfl, rfl, rfl, rfl, rfl, rfl⟩⟩

/-- One more file. -/
theorem Holds.add (h : a.Holds t files) (m : FileMetrics) : (a.add m).Holds t (files ++ [m]) where
  thresholds_eq := h.thresholds_eq
  files_eq := by
    show a.files ++ [m] = files ++ [m]
    rw [h.files_eq]
  languages_eq := by
    rw [collect_concat, ← h.languages_eq]
    rfl
  large_eq := by
    show (if m.isLarge a.thresholds then a.largeFiles ++ [m] else a.largeFiles) = _
    rw [h.thresholds_eq, h.large_eq, List.filter_append]
    by_cases hlarge : m.isLarge t = true
    · simp [hlarge]
    · simp [hlarge]
  summary := by
    show (a.summary.add a.thresholds m).SumsOver t (files ++ [m])
    rw [h.thresholds_eq]
    exact h.summary.add m

/-- **All files.** -/
theorem ofFiles_holds (t : Thresholds) (files : List FileMetrics) : (ofFiles t files).Holds t files := by
  induction files using List.reverseRecOn with
  | nil => exact holds_empty t
  | append_singleton files m ih =>
      unfold ofFiles
      rw [List.foldl_append, List.foldl_cons, List.foldl_nil]
      exact ih.add m

/-- The figures of the languages are in all those of the files. -/
theorem Holds.sum_languages (h : a.Holds t files) (ofLanguage : LanguageTotals → Int) {ofFile : FileMetrics → Int}
    (hlanguage : ∀ group : List FileMetrics,
      ofLanguage (group.foldl LanguageTotals.add .zero) = (group.map ofFile).sum) :
    (a.languages.entries.map fun e => ofLanguage e.2).sum = (files.map ofFile).sum := by
  have hseen : ∀ m ∈ files, m.language ∈ (files.map FileMetrics.language).eraseDups := fun m hm =>
    List.mem_eraseDups.mpr (List.mem_map_of_mem hm)
  rw [h.languages_eq, collect_entries, List.map_map,
    ← sum_by_key FileMetrics.language ofFile (nodup_eraseDups _) hseen]
  congr 1
  apply List.map_congr_left
  intro language _
  exact hlanguage _

theorem tryAdd_eq_ok {m : FileMetrics} {b : Aggregate} (h : a.tryAdd m = .ok b) : b = a.add m := by
  unfold tryAdd at h
  cases htotals : ((a.languages.get? m.language).getD .zero).tryAdd m with
  | error fault => simp [htotals, bind, Except.bind] at h
  | ok totals =>
      cases hsize : m.trySizeKB with
      | error fault => simp [htotals, hsize, bind, Except.bind] at h
      | ok size => simpa [htotals, hsize, bind, Except.bind, pure, Except.pure, eq_comm] using h

/-- Files that are taken in with their figures checked are taken in as they are without. -/
theorem foldlM_tryAdd {b : Aggregate} (h : files.foldlM tryAdd a = .ok b) : b = files.foldl add a := by
  induction files generalizing a with
  | nil => exact (Except.ok.inj h).symm
  | cons m files ih =>
      rw [List.foldlM_cons] at h
      cases hadd : a.tryAdd m with
      | error fault => simp [hadd, bind, Except.bind] at h
      | ok next =>
          rw [hadd] at h
          rw [List.foldl_cons, ← tryAdd_eq_ok hadd]
          exact ih h

end Aggregate

/-- The lines of balanced files are in all their code, comment and blank lines. -/
theorem sum_lines_balanced {files : List FileMetrics} (h : ∀ m ∈ files, m.Balanced) :
    (files.map FileMetrics.lines).sum = (files.map FileMetrics.codeLines).sum +
      (files.map FileMetrics.commentLines).sum + (files.map FileMetrics.blankLines).sum := by
  rw [← List.sum_map_add, ← List.sum_map_add]
  congr 1
  exact List.map_congr_left h

/-! ## The sections -/

/-- The entry tells a file, and why it is large. -/
structure ShownLargeFile.Tells (t : Thresholds) (m : FileMetrics) (entry : ShownLargeFile) : Prop where
  path_eq : entry.path = m.relativePath
  lines_eq : entry.lines = m.lines
  size_eq : entry.sizeKB = m.sizeKB
  language_eq : entry.language = m.language.tag
  reason_eq : entry.reason = m.largeReason t
  reason_ne : entry.reason ≠ ""

/-- The entry tells a file, and how far it passes the limits of complexity. -/
structure ShownComplexFile.Tells (t : Thresholds) (m : FileMetrics) (entry : ShownComplexFile) : Prop where
  path_eq : entry.path = m.relativePath
  complexity_eq : entry.complexity = m.complexity
  functions_eq : entry.functions = m.functions
  language_eq : entry.language = m.language.tag
  severity_eq : entry.severity =
    if (t.get .veryHighComplexity).lt (.int m.complexity) then "very-high" else "high"

/-- Entries that are made of the files with some property tell those files, in order. -/
theorem forall₂_filter_map {α : Type} {tells : FileMetrics → α → Prop} {p : FileMetrics → Bool}
    {entry : FileMetrics → α} (h : ∀ m, p m = true → tells m (entry m)) (files : List FileMetrics) :
    List.Forall₂ tells (files.filter p) ((files.filter p).map entry) := by
  rw [List.forall₂_map_right_iff, List.forall₂_same]
  intro m hm
  exact h m (List.mem_filter.mp hm).2

namespace ShownSections

/-- A total is the sum of a figure over all languages, and the sum of the same figure over all files. -/
def AddsUp (shown : ShownSections) (files : List FileMetrics) (ofLanguage : ShownLanguage → Int)
    (ofFile : FileMetrics → Int) (total : Int) : Prop :=
  total = (shown.languages.map fun e => ofLanguage e.2).sum ∧ total = (files.map ofFile).sum

/-- The sections agree with each other and with the files that were taken in. -/
structure TotalsAgree (t : Thresholds) (files : List FileMetrics) (shown : ShownSections) : Prop where
  files_total : shown.AddsUp files ShownLanguage.files (fun _ => 1) shown.totals.totalFiles
  lines_total : shown.AddsUp files ShownLanguage.lines FileMetrics.lines shown.totals.totalLines
  code_total : shown.AddsUp files ShownLanguage.codeLines FileMetrics.codeLines shown.totals.totalCodeLines
  comment_total :
    shown.AddsUp files ShownLanguage.commentLines FileMetrics.commentLines shown.totals.totalCommentLines
  blank_total : shown.AddsUp files ShownLanguage.blankLines FileMetrics.blankLines shown.totals.totalBlankLines
  size_total : shown.AddsUp files ShownLanguage.sizeBytes FileMetrics.sizeBytes shown.totals.totalSizeBytes
  functions_total : shown.AddsUp files ShownLanguage.functions FileMetrics.functions shown.totalFunctions
  languages_first_seen :
    shown.languages.map Prod.fst = (files.map FileMetrics.language).eraseDups.map Language.tag
  large_count : shown.totals.largeFiles = shown.large.length
  large_files : List.Forall₂ (ShownLargeFile.Tells t) (files.filter (·.isLarge t)) shown.large
  veryLarge_count : shown.totals.veryLargeFiles = (files.filter (·.isVeryLarge t)).length
  complex_files : List.Forall₂ (ShownComplexFile.Tells t)
    (files.filter fun m => (t.get .highComplexity).lt (.int m.complexity)) shown.complex
  lines_by_kind : (∀ m ∈ files, ∃ fs table root path, measureFile fs table root path = .ok m) →
    shown.totals.totalLines =
      shown.totals.totalCodeLines + shown.totals.totalCommentLines + shown.totals.totalBlankLines

end ShownSections

/-- A total over the files adds up if in each language the figure is a sum over the files of the language. -/
theorem Aggregate.Holds.addsUp {t : Thresholds} {files : List FileMetrics} {a : Aggregate} (h : a.Holds t files)
    {ofLanguage : ShownLanguage → Int} {ofFile : FileMetrics → Int} {total : Int}
    (hlanguage : ∀ group : List FileMetrics,
      ofLanguage (group.foldl LanguageTotals.add .zero).shown = (group.map ofFile).sum)
    (htotal : total = (files.map ofFile).sum) : a.shown.AddsUp files ofLanguage ofFile total := by
  refine ⟨?_, htotal⟩
  have hlanguages := h.sum_languages (fun totals => ofLanguage totals.shown) hlanguage
  show total = ((a.languages.entries.map fun e => (e.1.tag, e.2.shown)).map fun e => ofLanguage e.2).sum
  rw [htotal, ← hlanguages, List.map_map]
  rfl

/-- **The accounts of a metrics run agree**, after every sequence of files and under all thresholds. In the
    sections that are shown, each total is the sum over the languages and the sum over the files, the languages
    come in the order in which they were first seen, and the lists have an entry for each file that passes their
    limit, in the order in which the files were taken in. Taking in files with their figures checked gives the
    same accounts, when it gives any. -/
theorem metrics_totals_agree (t : Thresholds) (files : List FileMetrics) :
    (∃ shown, (Aggregate.ofFiles t files).shown? = some shown ∧ shown.TotalsAgree t files) ∧
      ∀ a, files.foldlM Aggregate.tryAdd (.empty t) = .ok a → a = .ofFiles t files := by
  refine ⟨⟨_, Aggregate.read?_sections _, ?_⟩, fun _ => Aggregate.foldlM_tryAdd⟩
  have h := Aggregate.ofFiles_holds t files
  have hsums := LanguageTotals.sumsOver_foldl
  have hcount : ∀ group : List FileMetrics, (group.length : Int) = (group.map fun _ => 1).sum := by simp
  set a := Aggregate.ofFiles t files with ha
  constructor
  case files_total =>
    refine h.addsUp (fun group => ?_) ?_
    · show ((group.foldl LanguageTotals.add .zero).files : Int) = _
      rw [(hsums group).files_eq, hcount]
    · show (a.summary.totalFiles : Int) = _
      rw [h.summary.files_eq, hcount]
  case lines_total => exact h.addsUp (fun group => (hsums group).lines_eq) h.summary.lines_eq
  case code_total => exact h.addsUp (fun group => (hsums group).code_eq) h.summary.code_eq
  case comment_total => exact h.addsUp (fun group => (hsums group).comment_eq) h.summary.comment_eq
  case blank_total => exact h.addsUp (fun group => (hsums group).blank_eq) h.summary.blank_eq
  case size_total => exact h.addsUp (fun group => (hsums group).size_eq) h.summary.size_eq
  case functions_total =>
    refine h.addsUp (fun group => (hsums group).functions_eq) ?_
    show (a.files.map FileMetrics.functions).sum = _
    rw [h.files_eq]
  case languages_first_seen =>
    show (a.languages.entries.map fun e => (e.1.tag, e.2.shown)).map Prod.fst = _
    rw [h.languages_eq, collect_entries, List.map_map, List.map_map]
    rfl
  case large_count =>
    show (a.summary.largeFiles : Int) = ((a.largeFiles.map _).length : Int)
    rw [h.summary.large_eq, h.large_eq, List.length_map]
  case large_files =>
    show List.Forall₂ _ _ (a.largeFiles.map (FileMetrics.shownLarge a.thresholds))
    rw [h.large_eq, h.thresholds_eq]
    exact forall₂_filter_map
      (fun m hlarge => ⟨rfl, rfl, rfl, rfl, rfl, FileMetrics.largeReason_ne_empty hlarge⟩) files
  case veryLarge_count =>
    show (a.summary.veryLargeFiles : Int) = _
    rw [h.summary.veryLarge_eq]
  case complex_files =>
    show List.Forall₂ _ _ ((a.files.filter fun m => m.complexityOver a.thresholds .highComplexity).map
      (FileMetrics.shownComplex a.thresholds))
    rw [h.files_eq, h.thresholds_eq]
    exact forall₂_filter_map (fun m _ => ⟨rfl, rfl, rfl, rfl, rfl⟩) files
  case lines_by_kind =>
    intro hmeasured
    have hbalanced : ∀ m ∈ files, m.Balanced := by
      intro m hm
      obtain ⟨fs, table, root, path, hmeasure⟩ := hmeasured m hm
      exact measureFile_balanced hmeasure
    show a.summary.totalLines =
      a.summary.totalCodeLines + a.summary.totalCommentLines + a.summary.totalBlankLines
    rw [h.summary.lines_eq, h.summary.code_eq, h.summary.comment_eq, h.summary.blank_eq]
    exact sum_lines_balanced hbalanced

/-- A file of three lines, one of each kind, on a disk of its own. -/
def threeLines : FileSystem := .withFile "a.py" "x\n# c\n\n".toUTF8

/-- The measures of that file. -/
def threeLinesMeasured : FileMetrics :=
  .ofContent metricsLanguages ⟨.root, ["a.py"]⟩ ⟨.root, []⟩ 7 (secondsOf 0) "x\n# c\n\n"

theorem threeLines_measured :
    measureFile threeLines metricsLanguages ⟨.root, []⟩ ⟨.root, ["a.py"]⟩ = .ok threeLinesMeasured := by
  have hlocate := FileSystem.withFile_locate "x\n# c\n\n".toUTF8 (by decide : FileSystem.EntryName "a.py")
  have hdecode : Text.decodeUtf8 "x\n# c\n\n".toUTF8.toList = .ok "x\n# c\n\n".toList := by decide +kernel
  have hcontent : String.ofList (Text.universalNewlines "x\n# c\n\n".toList) = "x\n# c\n\n" := by decide +kernel
  have hread := FileSystem.readText_of_locate hlocate hdecode
  rw [hcontent] at hread
  exact measureFile_eq_ok.mpr ⟨_, _, FileSystem.stat_of_locate hlocate, hread, rfl⟩

/-- That file taken in twice. -/
theorem metrics_totals_agree_measured_twice :
    let files := [threeLinesMeasured, threeLinesMeasured]
    (∀ m ∈ files, ∃ fs table root path, measureFile fs table root path = .ok m) ∧
      ∃ shown, (Aggregate.ofFiles .defaults files).shown? = some shown ∧ shown.totals.totalLines = 6 ∧
        shown.totals.totalLines =
          shown.totals.totalCodeLines + shown.totals.totalCommentLines + shown.totals.totalBlankLines := by
  intro files
  have hmeasured : ∀ m ∈ files, ∃ fs table root path, measureFile fs table root path = .ok m := by
    intro m hm
    obtain rfl : m = threeLinesMeasured := by simpa [files] using hm
    exact ⟨_, _, _, _, threeLines_measured⟩
  have hlines : threeLinesMeasured.lines = 3 := by decide +kernel
  obtain ⟨⟨shown, hshown, hagree⟩, _⟩ := metrics_totals_agree .defaults files
  refine ⟨hmeasured, shown, hshown, ?_, hagree.lines_by_kind hmeasured⟩
  rw [hagree.lines_total.2]
  simp [files, hlines]

end CodeCensus
