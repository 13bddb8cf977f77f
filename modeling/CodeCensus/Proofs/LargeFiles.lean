import CodeCensus.Proofs.AcceptedSettings
import CodeCensus.Proofs.DoubleOrder
import CodeCensus.Proofs.MetricsTotals

/-!
# Large and very large files

A file is large when it passes one of two limits, on its lines or on its size, and very large when it passes
one of two others. Settings whose limits on lines are the wrong way round come with a notice; the limits on
sizes are compared by nothing. So a very large file is a large one, and stands in the list of large files,
exactly when no size passes the one limit on sizes without the other. Limits in the right order are enough for
that.

## Contents
- `Thresholds.SizesNested` — no size is very large without being large;
- `Settings.read_lines_le`, `Settings.read_sizesNested` — which limits of accepted settings are in order;
- `Aggregate.ListsVeryLarge` — all very large files are listed;
- `veryLarge_listed_iff`, `veryLarge_not_listed` — when they are, and settings under which they are not.
-/

namespace CodeCensus

/-! ## Limits -/

theorem Number.lt_of_le_of_lt {a b c : Number} (hab : a.le b = true) (hbc : b.lt c = true) : a.lt c = true := by
  obtain ⟨x, y, hx, hy, hxy⟩ := Number.le_iff.mp hab
  obtain ⟨y', z, hy', hz, hyz⟩ := Number.lt_iff.mp hbc
  obtain rfl : y = y' := Option.some.inj (hy.symm.trans hy')
  exact Number.lt_iff.mpr ⟨x, z, hx, hz, hxy.trans_lt hyz⟩

/-- An accepted threshold is no NaN. -/
theorem checkThreshold_value? {k : ThresholdKey} {given : Value} {n : Number}
    (h : checkThreshold k given = .ok n) : ∃ x, n.value? = some x := by
  obtain ⟨_, hfinite, _⟩ := checkThreshold_eq_ok.mp h
  cases n with
  | int m => exact ⟨_, rfl⟩
  | double x =>
      cases x with
      | nan mark => cases hfinite
      | infinite s => exact ⟨_, rfl⟩
      | finite s m e => exact ⟨_, rfl⟩

theorem ThresholdKey.default_value? (k : ThresholdKey) : ∃ x, k.default.value? = some x := by
  have hsimilarity : ThresholdKey.similarityThreshold.default = .double (.finite false 7205759403792794 (-53)) := rfl
  cases k
  case similarityThreshold =>
    rw [hsimilarity]
    exact ⟨_, rfl⟩
  all_goals exact ⟨_, rfl⟩

namespace FileMetrics

variable {t : Thresholds} {low high : ThresholdKey}

/-- What passes a limit passes every limit that is not above it. -/
theorem linesOver_of_le (h : (t.get low).le (t.get high) = true) {m : FileMetrics}
    (hover : m.linesOver t high = true) : m.linesOver t low = true :=
  Number.lt_of_le_of_lt h hover

theorem sizeOver_of_le (h : (t.get low).le (t.get high) = true) {m : FileMetrics}
    (hover : m.sizeOver t high = true) : m.sizeOver t low = true :=
  Number.lt_of_le_of_lt h hover

end FileMetrics

/-- No size passes the limit for very large files without passing the one for large files. -/
def Thresholds.SizesNested (t : Thresholds) : Prop :=
  ∀ m : FileMetrics, m.sizeOver t .veryLargeFileSizeKB = true → m.sizeOver t .largeFileSizeKB = true

section Accepted

variable {raw : RawSettings} {settings : Settings}

theorem Settings.read_value? (h : (Settings.read raw).2 = .ok settings) (k : ThresholdKey) :
    ∃ x, (settings.thresholds.get k).value? = some x :=
  Settings.read_forall checkThreshold_value? ThresholdKey.default_value? h k

/-- Of two accepted limits, the one that is not below the other is not above it. -/
theorem Settings.read_le (h : (Settings.read raw).2 = .ok settings) {low high : ThresholdKey}
    (hnot : (settings.thresholds.get high).lt (settings.thresholds.get low) = false) :
    (settings.thresholds.get low).le (settings.thresholds.get high) = true := by
  obtain ⟨x, hx⟩ := Settings.read_value? h high
  obtain ⟨y, hy⟩ := Settings.read_value? h low
  exact (Number.le_iff_lt_eq_false hx hy).mpr hnot

/-- Without a notice the limits on lines are in order. -/
theorem Settings.read_lines_le (h : (Settings.read raw).2 = .ok settings)
    (hquiet : ∀ veryLarge large, Notice.limitsReversed veryLarge large ∉ (Settings.read raw).1) :
    (settings.thresholds.get .largeFileLines).le (settings.thresholds.get .veryLargeFileLines) = true := by
  apply Settings.read_le h
  obtain ⟨entries, t, _, hfinish, hnotices⟩ := Settings.read_eq_ok h
  rw [(finishSettings_eq_ok hfinish).1]
  by_contra hreversed
  have hnotice : .limitsReversed (t.get .veryLargeFileLines) (t.get .largeFileLines) ∈ reversedNotices t := by
    unfold reversedNotices
    dsimp only
    rw [Bool.not_eq_false] at hreversed
    rw [if_pos hreversed]
    exact List.mem_singleton.mpr rfl
  exact hquiet _ _ (hnotices hnotice)

/-- The limits on sizes are nested if they are in order. -/
theorem Settings.read_sizesNested (h : (Settings.read raw).2 = .ok settings)
    (hnot : (settings.thresholds.get .veryLargeFileSizeKB).lt (settings.thresholds.get .largeFileSizeKB) =
      false) : settings.thresholds.SizesNested := fun _ =>
  FileMetrics.sizeOver_of_le (Settings.read_le h hnot)

end Accepted

/-! ## Lists of large files -/

/-- Every very large file is a large one, so no more files are counted as very large than as large, and each
    very large one is listed. -/
structure Aggregate.ListsVeryLarge (a : Aggregate) : Prop where
  large : ∀ m ∈ a.files, m.isVeryLarge a.thresholds = true → m.isLarge a.thresholds = true
  count_le : a.summary.veryLargeFiles ≤ a.summary.largeFiles
  listed : (a.files.filter (·.isVeryLarge a.thresholds)).Sublist a.largeFiles

/-- The accounts list all very large files when each of them is large. -/
theorem Aggregate.Holds.listsVeryLarge {t : Thresholds} {files : List FileMetrics} {a : Aggregate}
    (h : a.Holds t files) (hlarge : ∀ m ∈ files, m.isVeryLarge t = true → m.isLarge t = true) :
    a.ListsVeryLarge := by
  have hsublist : (files.filter (·.isVeryLarge t)).Sublist (files.filter (·.isLarge t)) := by
    have hboth : files.filter (·.isVeryLarge t) = (files.filter (·.isLarge t)).filter (·.isVeryLarge t) := by
      rw [List.filter_filter]
      apply List.filter_congr
      intro m hm
      cases hvery : m.isVeryLarge t with
      | false => rfl
      | true => simp [hlarge m hm hvery]
    rw [hboth]
    exact List.filter_sublist
  constructor
  case large =>
    rw [h.files_eq, h.thresholds_eq]
    exact hlarge
  case count_le =>
    rw [h.summary.veryLarge_eq, h.summary.large_eq]
    exact hsublist.length_le
  case listed =>
    rw [h.files_eq, h.thresholds_eq, h.large_eq]
    exact hsublist

/-- **When very large files are listed.** Under accepted settings without a notice about their limits, every very
    large file is a large one, is counted as one and is listed, after every file that is taken in, exactly when
    no size passes the limit for very large files alone. It is enough that this limit is not below the other. -/
theorem veryLarge_listed_iff {raw : RawSettings} {settings : Settings}
    (haccepted : (Settings.read raw).2 = .ok settings)
    (hquiet : ∀ veryLarge large, Notice.limitsReversed veryLarge large ∉ (Settings.read raw).1) :
    ((∀ files, (Aggregate.ofFiles settings.thresholds files).ListsVeryLarge) ↔
        settings.thresholds.SizesNested) ∧
      ((settings.thresholds.get .veryLargeFileSizeKB).lt (settings.thresholds.get .largeFileSizeKB) = false →
        settings.thresholds.SizesNested) := by
  have hlines := Settings.read_lines_le haccepted hquiet
  refine ⟨⟨?_, ?_⟩, Settings.read_sizesNested haccepted⟩
  · intro hlisted m hover
    -- a file of this size without lines is large by its size or not at all
    let short : FileMetrics := { m with lines := 0 }
    have hshort : short.linesOver settings.thresholds .largeFileLines = false := by
      have hrange := (Settings.read_sound haccepted .largeFileLines).range
      unfold ThresholdKey.inRange at hrange
      rw [Bool.and_eq_true, Bool.not_eq_true'] at hrange
      exact hrange.1
    have hvery : short.isVeryLarge settings.thresholds = true := by
      unfold FileMetrics.isVeryLarge
      rw [Bool.or_eq_true]
      exact .inr hover
    have hlarge : short.isLarge settings.thresholds = true :=
      (hlisted [short]).large short (List.mem_singleton.mpr rfl) hvery
    unfold FileMetrics.isLarge at hlarge
    rw [hshort, Bool.false_or] at hlarge
    exact hlarge
  · intro hnested files
    apply (Aggregate.ofFiles_holds settings.thresholds files).listsVeryLarge
    intro m _ hvery
    unfold FileMetrics.isVeryLarge at hvery
    unfold FileMetrics.isLarge
    rw [Bool.or_eq_true] at hvery ⊢
    exact hvery.imp (FileMetrics.linesOver_of_le hlines) (hnested m)

/-- Settings with the limits for large and for very large files at the same values. -/
def equalLimits : RawSettings :=
  { workspace := .text "/ws"
    thresholds := .map [(.text "veryLargeFileLines", .int 500), (.text "largeFileSizeKB", .int 500)] }

/-- With equal limits the very large files are the large ones. -/
theorem veryLarge_listed_at_equal_limits :
    ∃ settings, Settings.read equalLimits = ([], .ok settings) ∧
      (settings.thresholds.get .veryLargeFileSizeKB).lt (settings.thresholds.get .largeFileSizeKB) = false ∧
      ∀ files, (Aggregate.ofFiles settings.thresholds files).ListsVeryLarge := by
  have hread : ∃ settings, Settings.read equalLimits = ([], .ok settings) ∧
      (settings.thresholds.get .veryLargeFileSizeKB).lt (settings.thresholds.get .largeFileSizeKB) = false :=
    ⟨_, rfl, rfl⟩
  obtain ⟨settings, hread, hsizes⟩ := hread
  have haccepted : (Settings.read equalLimits).2 = .ok settings := by rw [hread]
  have hquiet : ∀ veryLarge large, Notice.limitsReversed veryLarge large ∉ (Settings.read equalLimits).1 := by
    intro veryLarge large
    rw [hread]
    exact List.not_mem_nil
  obtain ⟨hiff, hnested⟩ := veryLarge_listed_iff haccepted hquiet
  exact ⟨settings, hread, hsizes, hiff.mpr (hnested hsizes)⟩

/-! ## A very large file that is not listed -/

/-- Settings with the limit on the size of very large files below the one for large files. -/
def reversedSizes : RawSettings :=
  { workspace := .text "/ws", thresholds := .map [(.text "veryLargeFileSizeKB", .int 50)] }

/-- A file with a size between the two limits. -/
def sizeBetween : FileMetrics :=
  { path := ⟨.root, ["ws", "f.py"]⟩, relativePath := "f.py", language := .python, extension := ".py"
    sizeBytes := 61440, lines := 10, codeLines := 0, commentLines := 0, blankLines := 0, functions := 0
    classes := 0, complexity := 1, modified := .zero }

/-- Settings that are accepted without any notice, under which a very large file is not large, is not counted as
    such and is not listed. -/
theorem veryLarge_not_listed :
    ∃ settings, Settings.read reversedSizes = ([], .ok settings) ∧
      sizeBetween.isVeryLarge settings.thresholds = true ∧ sizeBetween.isLarge settings.thresholds = false ∧
      (Aggregate.ofFiles settings.thresholds [sizeBetween]).summary.veryLargeFiles = 1 ∧
      (Aggregate.ofFiles settings.thresholds [sizeBetween]).summary.largeFiles = 0 ∧
      (Aggregate.ofFiles settings.thresholds [sizeBetween]).largeFiles = [] :=
  ⟨_, rfl, rfl, rfl, rfl, rfl, rfl⟩

end CodeCensus
