import CodeCensus.Proofs.OptionLayers

/-!
# Thresholds of a settings file

A settings file has a section for each of the two analyses, and a run has one map of thresholds, made of both
sections with the metrics on top. The sections are laid over their defaults before. So a threshold of the metrics
that the file sets under `duplicates` is lost: the default of the metrics lies over it. No other setting is lost,
and the loss is passed over in silence, since warnings are about names that are no thresholds.

## Contents
- `FileGives`, `fileValue?` — what a file gives for a threshold, and which of it counts;
- `lookup?_flattened` — the threshold that a run has;
- `kept_iff` — when that is one that the file gave;
- `overlaySections_notices`, `readThresholds_notices`, `Settings.read_notices` — what there are warnings about;
- `file_thresholds_kept_iff` — which settings of a file are kept.
-/

namespace CodeCensus

/-! ## Values of a file -/

/-- The file gives the value for the threshold, in one of the sections of the analyses. -/
def FileGives (given : Value) (key : ThresholdKey) (v : Value) : Prop :=
  given.setting? "duplicates" key.name = some v ∨ given.setting? "metrics" key.name = some v

/-- The value that counts among those that a file gives for a threshold. -/
def fileValue? (given : Value) (key : ThresholdKey) : Option Value :=
  (given.setting? "metrics" key.name).or
    (if key ∈ ThresholdKey.duplicates then given.setting? "duplicates" key.name else none)

/-- The file sets the threshold where it counts, or gives the default for it. -/
def SetsWhereItCounts (given : Value) (key : ThresholdKey) : Prop :=
  (∃ v, given.setting? "metrics" key.name = some v) ∨
    (key ∈ ThresholdKey.duplicates ∧ ∃ v, given.setting? "duplicates" key.name = some v) ∨
    given.setting? "duplicates" key.name = some key.default.toValue

/-- A threshold that no item assigns is that of the metrics section, or else that of the other section, each with
    its defaults under it. -/
theorem lookup?_flattened {given : Value} {sections duplicates metrics overrides : List (Value × Value)}
    {assigned : List (String × Value)}
    (hduplicates : SectionOver given "duplicates" (defaultEntries ThresholdKey.duplicates) sections duplicates)
    (hmetrics : SectionOver given "metrics" (defaultEntries ThresholdKey.metrics) sections metrics)
    (hapart : Value.TextsApart overrides)
    (hoverrides : ∀ name, Value.lookup? overrides (.text name) = lastAssigned? assigned name)
    {key : ThresholdKey} (hkey : lastAssigned? assigned key.name = none) :
    Value.lookup? (Value.merge (Value.merge duplicates metrics) overrides) (.text key.name) =
      some ((fileValue? given key).getD key.default.toValue) := by
  rw [Value.lookup?_merge_apart _ hapart, hoverrides, hkey, Option.none_or,
    Value.lookup?_merge_apart _ hmetrics.apart, hmetrics.lookup, hduplicates.lookup, lookup?_defaultEntries,
    lookup?_defaultEntries]
  unfold fileValue?
  by_cases hpart : key ∈ ThresholdKey.duplicates
  · have hnot : key ∉ ThresholdKey.metrics := fun h => ThresholdKey.mem_metrics.mp h hpart
    rw [if_pos hpart, if_pos hpart, if_neg hnot, Option.or_none, or_or_some]
  · -- the default of the metrics stands before anything that the other section has
    rw [if_neg hpart, if_neg hpart, if_pos (ThresholdKey.mem_metrics.mpr hpart), Option.or_none]
    cases given.setting? "metrics" key.name <;> rfl

/-- The value that counts, over the default, is one that the file gives exactly when it is set where it counts. -/
theorem kept_iff (given : Value) (key : ThresholdKey) :
    FileGives given key ((fileValue? given key).getD key.default.toValue) ↔ SetsWhereItCounts given key := by
  unfold FileGives SetsWhereItCounts fileValue?
  cases hmetrics : given.setting? "metrics" key.name with
  | some v => simp
  | none =>
      by_cases hpart : key ∈ ThresholdKey.duplicates
      · cases hduplicates : given.setting? "duplicates" key.name <;> simp [hpart]
      · simp [hpart]

/-! ## Warnings -/

/-- The notice names a threshold: as one that it does not know, as a section, or as one of two limits that are
    the wrong way round. -/
def Notice.NamesThreshold (key : ThresholdKey) : Notice → Prop
  | .unknownThreshold k => k = .text key.name
  | .unknownSection k _ => k = .text key.name
  | .limitsReversed _ _ => key = .largeFileLines ∨ key = .veryLargeFileLines
  | _ => False

theorem overlaySections_notices {file : String} {sections document : List (Value × Value)} {notice : Notice}
    (h : notice ∈ (overlaySections file sections document).1) :
    ∃ e ∈ sections, notice = .unknownSection e.1 file := by
  induction sections generalizing document with
  | nil => simp [overlaySections] at h
  | cons e rest ih =>
      obtain ⟨key, given⟩ := e
      have hlater : ∀ {document : List (Value × Value)}, notice ∈ (overlaySections file rest document).1 →
          ∃ e ∈ (key, given) :: rest, notice = .unknownSection e.1 file := by
        intro document hnotice
        obtain ⟨e, he, hunknown⟩ := ih hnotice
        exact ⟨e, List.mem_cons_of_mem _ he, hunknown⟩
      unfold overlaySections at h
      split at h
      next =>
        rcases List.mem_cons.mp h with rfl | hrest
        · exact ⟨(key, given), List.mem_cons_self, rfl⟩
        · exact hlater hrest
      next =>
        split at h
        next => simp at h
        next => exact hlater h

/-- Loading a file warns of sections alone. -/
theorem FileSystem.loadSettings_notices {fs : FileSystem} {path : Path} {notice : Notice}
    (h : notice ∈ (fs.loadSettings path).1) : ∃ k, notice = .unknownSection k path.text := by
  unfold FileSystem.loadSettings at h
  split at h
  next => simp at h
  next given _ =>
    have hoverlay : notice ∈ (overlayDocument path.text given).1 := by
      split at h
      next notices document heq =>
        rw [heq]
        exact h
      next notices e heq =>
        rw [heq]
        exact h
    unfold overlayDocument at hoverlay
    dsimp only at hoverlay
    split at hoverlay
    next => simp at hoverlay
    next sections _ =>
      have hsections : notice ∈ (overlaySections path.text sections defaultSections).1 := by
        split at hoverlay
        next notices document heq =>
          rw [heq]
          exact hoverlay
        next notices e heq =>
          rw [heq]
          exact hoverlay
      obtain ⟨e, _, hunknown⟩ := overlaySections_notices hsections
      exact ⟨e.1, hunknown⟩

theorem readThresholds_notices {entries : List (Value × Value)} {t : Thresholds} {notice : Notice}
    (h : notice ∈ (readThresholds entries t).1) :
    ∃ k, notice = .unknownThreshold k ∧ ThresholdKey.ofValue? k = none := by
  induction entries generalizing t with
  | nil => simp [readThresholds] at h
  | cons entry rest ih =>
      obtain ⟨key, value⟩ := entry
      unfold readThresholds at h
      split at h
      next hunknown =>
        rcases List.mem_cons.mp h with rfl | hrest
        · exact ⟨key, rfl, hunknown⟩
        · exact ih hrest
      next =>
        split at h
        next => simp at h
        next => exact ih h

/-- Reading settings warns of names that are no thresholds, and of limits that are the wrong way round. -/
theorem Settings.read_notices {raw : RawSettings} {notice : Notice} (h : notice ∈ (Settings.read raw).1) :
    (∃ k, notice = .unknownThreshold k ∧ ThresholdKey.ofValue? k = none) ∨
      ∃ veryLarge large, notice = .limitsReversed veryLarge large := by
  unfold Settings.read at h
  split at h
  next => simp at h
  next entries _ =>
    have hread : ∀ n ∈ (readThresholds entries .defaults).1,
        ∃ k, n = .unknownThreshold k ∧ ThresholdKey.ofValue? k = none :=
      fun n hn => readThresholds_notices hn
    rcases hthresholds : readThresholds entries .defaults with ⟨notices, e | t⟩
    · rw [hthresholds] at h hread
      exact .inl (hread notice h)
    · rw [hthresholds] at h hread
      simp only at h hread
      split at h
      next => exact .inl (hread notice h)
      next =>
        rcases List.mem_append.mp h with hbefore | hreversed
        · exact .inl (hread notice hbefore)
        · unfold reversedNotices at hreversed
          dsimp only at hreversed
          split at hreversed
          next =>
            rw [List.mem_singleton] at hreversed
            exact .inr ⟨_, _, hreversed⟩
          next => simp at hreversed

/-- A warning that names a threshold is about a section of that name, or about the limits for large files. -/
theorem namesThreshold_cases {fs : FileSystem} {path : Path} {raw : RawSettings} {key : ThresholdKey}
    {notice : Notice} (h : notice ∈ (fs.loadSettings path).1 ++ (Settings.read raw).1)
    (hnames : notice.NamesThreshold key) :
    notice = .unknownSection (.text key.name) path.text ∨
      (key = .largeFileLines ∨ key = .veryLargeFileLines) ∧
        ∃ veryLarge large, notice = .limitsReversed veryLarge large := by
  rcases List.mem_append.mp h with hload | hread
  · obtain ⟨k, rfl⟩ := FileSystem.loadSettings_notices hload
    obtain rfl : k = .text key.name := hnames
    exact .inl rfl
  · rcases Settings.read_notices hread with ⟨k, rfl, hunknown⟩ | ⟨veryLarge, large, rfl⟩
    · -- a threshold is not unknown by its own name
      obtain rfl : k = .text key.name := hnames
      exact absurd rfl (ThresholdKey.ofValue?_eq_none.mp hunknown key)
    · exact .inr ⟨hnames, veryLarge, large, rfl⟩

/-! ## Settings that are kept -/

/-- **The thresholds of a run** that no item assigns: the value that counts in the file, or else the default. -/
theorem exists_options_lookup {fs : FileSystem} {path : Path} (command : Command) {choices : RunChoices}
    {given document : Value} {assigned : List (String × Value)}
    (hread : fs.readDocument path = .ok given) (hload : (fs.loadSettings path).2 = .ok document)
    (hitems : List.Forall₂ Assigns choices.overrides assigned) :
    ∃ options, buildOptions command choices document = .ok options ∧
      ∀ key : ThresholdKey, lastAssigned? assigned key.name = none →
        Value.lookup? options.thresholds (.text key.name) =
          some ((fileValue? given key).getD key.default.toValue) := by
  obtain ⟨given', sections, duplicates, metrics, run, hread', rfl, hduplicates, hmetrics, hrun⟩ :=
    FileSystem.loadSettings_sections hload
  obtain rfl : given' = given := Except.ok.inj (hread'.symm.trans hread)
  obtain ⟨overrides, hoverrides, hapart, hlast⟩ := parseOverrides_eq_ok hitems
  have hflat := flattenThresholds_eq hduplicates hmetrics
  refine ⟨_, buildOptions_eq_ok hrun.sectionOf_eq hflat hoverrides, ?_⟩
  intro key hkey
  exact lookup?_flattened hduplicates hmetrics hapart hlast hkey

/-- **Which thresholds of a settings file are kept.** With a settings file that can be used, and items that each
    assign a value, a threshold that no item assigns has the value that counts in the file, or else the default.
    That is a value which the file gives for it exactly when the file sets it where it counts. Whatever becomes of
    it, no warning names it, unless about a section of the same name or about the limits for large files. -/
theorem file_thresholds_kept_iff (fs : FileSystem) (path : Path) (command : Command) (choices : RunChoices)
    {given document : Value} {assigned : List (String × Value)}
    (hread : fs.readDocument path = .ok given) (hload : (fs.loadSettings path).2 = .ok document)
    (hitems : List.Forall₂ Assigns choices.overrides assigned) :
    ∃ options, buildOptions command choices document = .ok options ∧
      ∀ key : ThresholdKey, lastAssigned? assigned key.name = none →
        Value.lookup? options.thresholds (.text key.name) =
            some ((fileValue? given key).getD key.default.toValue) ∧
          ((∃ v, Value.lookup? options.thresholds (.text key.name) = some v ∧ FileGives given key v) ↔
            SetsWhereItCounts given key) ∧
          ∀ workspace : String,
            ∀ notice ∈ (fs.loadSettings path).1 ++ (Settings.read (options.settings workspace)).1,
              notice.NamesThreshold key →
                notice = .unknownSection (.text key.name) path.text ∨
                  (key = .largeFileLines ∨ key = .veryLargeFileLines) ∧
                    ∃ veryLarge large, notice = .limitsReversed veryLarge large := by
  obtain ⟨options, hoptions, hkeys⟩ := exists_options_lookup command hread hload hitems
  refine ⟨options, hoptions, ?_⟩
  intro key hkey
  have hlookup := hkeys key hkey
  refine ⟨hlookup, ?_, ?_⟩
  · rw [← kept_iff]
    simp only [hlookup, Option.some.injEq, exists_eq_left']
  · intro workspace notice hnotice hnames
    exact namesThreshold_cases hnotice hnames

/-- A threshold that the file sets among the metrics is kept, beside one that an item assigns. -/
theorem file_thresholds_kept_one_setting :
    let choices : RunChoices := ⟨[some "minLines=3"], .null, .null, false⟩
    (settingDisk "metrics" "7").readDocument ⟨.root, ["s.yml"]⟩ = .ok (settingGiven "metrics" 7) ∧
      List.Forall₂ Assigns choices.overrides [("minLines", .int 3)] ∧
      ∃ document, ((settingDisk "metrics" "7").loadSettings ⟨.root, ["s.yml"]⟩).2 = .ok document ∧
        ∃ options, buildOptions .metrics choices document = .ok options ∧
          Value.lookup? options.thresholds (.text "highComplexity") = some (.int 7) := by
  intro choices
  have hitem : Assigns (some "minLines=3") ("minLines", .int 3) :=
    parseItem_eq_ok.mp (parseOverride_eq_ok.mpr ⟨"3", rfl, rfl⟩)
  have hitems : List.Forall₂ Assigns choices.overrides [("minLines", .int 3)] := .cons hitem .nil
  have hvalue : fileValue? (settingGiven "metrics" 7) .highComplexity = some (.int 7) := by
    simp [fileValue?, Value.setting?, settingGiven, Value.get?, Value.lookup?, Value.sameKey, ThresholdKey.name]
  have hsample : ("metrics", "7", 7) ∈ sampleSettings := by decide
  have hread := settingDisk_readDocument hsample
  obtain ⟨document, hload⟩ := settingDisk_loadSettings hsample
  have hdocument := congrArg Prod.snd hload
  obtain ⟨options, hoptions, hkeys⟩ :=
    file_thresholds_kept_iff (settingDisk "metrics" "7") ⟨.root, ["s.yml"]⟩ .metrics choices hread hdocument
      hitems
  obtain ⟨hlookup, _, _⟩ := hkeys .highComplexity (by decide)
  rw [hvalue] at hlookup
  exact ⟨hread, hitems, document, hdocument, options, hoptions, hlookup⟩

/-! ## A setting that is lost -/

/-- A threshold of the metrics that a file sets under `duplicates` has its default, and no warning names it. -/
theorem misplaced_threshold_lost :
    let disk := settingDisk "duplicates" "3"
    let given := settingGiven "duplicates" 3
    disk.readDocument ⟨.root, ["s.yml"]⟩ = .ok given ∧
      FileGives given .highComplexity (.int 3) ∧
      ∃ document options, (disk.loadSettings ⟨.root, ["s.yml"]⟩).2 = .ok document ∧
        buildOptions .metrics ⟨[], .null, .null, false⟩ document = .ok options ∧
        Value.lookup? options.thresholds (.text "highComplexity") = some (.int 10) ∧
        ¬FileGives given .highComplexity (.int 10) ∧
        ∀ workspace : String, ∀ notice ∈ (disk.loadSettings ⟨.root, ["s.yml"]⟩).1 ++
          (Settings.read (options.settings workspace)).1, ¬notice.NamesThreshold .highComplexity := by
  intro disk given
  have hduplicates : given.setting? "duplicates" "highComplexity" = some (.int 3) := by
    simp [given, Value.setting?, settingGiven, Value.get?, Value.lookup?, Value.sameKey]
  have hmetrics : given.setting? "metrics" "highComplexity" = none := by
    simp [given, Value.setting?, settingGiven, Value.get?, Value.lookup?, Value.sameKey]
  have hvalue : fileValue? given .highComplexity = none := by
    show (given.setting? "metrics" "highComplexity").or _ = none
    rw [hmetrics]
    decide
  have hsample : ("duplicates", "3", 3) ∈ sampleSettings := by decide
  have hread : disk.readDocument ⟨.root, ["s.yml"]⟩ = .ok given := settingDisk_readDocument hsample
  obtain ⟨document, hload⟩ := settingDisk_loadSettings hsample
  have hdocument : (disk.loadSettings ⟨.root, ["s.yml"]⟩).2 = .ok document := congrArg Prod.snd hload
  obtain ⟨options, hoptions, hkeys⟩ := exists_options_lookup .metrics hread hdocument
    (show List.Forall₂ Assigns (RunChoices.mk [] .null .null false).overrides [] from .nil)
  have hlookup := hkeys .highComplexity rfl
  rw [hvalue] at hlookup
  refine ⟨hread, .inl hduplicates, document, options, hdocument, hoptions, hlookup, ?_, ?_⟩
  · rintro (hgives | hgives)
    · exact absurd (hduplicates.symm.trans hgives) (by simp)
    · exact absurd (hmetrics.symm.trans hgives) (by simp)
  · intro workspace notice hnotice hnames
    rcases namesThreshold_cases hnotice hnames with rfl | ⟨hkey, _⟩
    · -- there is no section of that name
      rcases List.mem_append.mp hnotice with hsection | hread
      · rw [congrArg Prod.fst hload] at hsection
        exact absurd hsection List.not_mem_nil
      · rcases Settings.read_notices hread with ⟨_, hunknown, _⟩ | ⟨_, _, hreversed⟩
        · cases hunknown
        · cases hreversed
    · simp at hkey

end CodeCensus
