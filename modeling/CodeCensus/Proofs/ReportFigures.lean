import CodeCensus.Proofs.ReportedPairs
import Mathlib.Data.Finset.Card

/-!
# Figures of a report

The figures of a duplicate report come from different places: the walk counts the files, the analysis keeps
some of them, each detector makes its groups, and the summary adds up. They agree with the lists of the
report. A member of a group can be looked up among the analysed files by its path, since no two of these have
the same one, and what it says about language and lines is what the file says.

## Contents
- `filter_eq_singleton`, `size_ofList` — looking up by a key, and counting different elements;
- `ShownMember.CoversFile`, `ShownMember.SpansBlock`, `ShownMember.Placed` — what a member says about its file;
- `FileRecord.BlocksWithin`, `reportDuplicates_placed` — members of the groups of a report;
- `ShownReport.Consistent`, `report_figures_agree` — the whole report.
-/

namespace CodeCensus

/-! ## Looking up and counting -/

/-- Where keys are different, an element is the only one with its key. -/
theorem filter_eq_singleton {α β : Type} [DecidableEq β] {key : α → β} {xs : List α}
    (hkeys : (xs.map key).Nodup) {x : α} (hx : x ∈ xs) :
    xs.filter (fun y => key y = key x) = [x] := by
  induction xs with
  | nil => exact absurd hx List.not_mem_nil
  | cons z rest ih =>
      rw [List.map_cons, List.nodup_cons] at hkeys
      obtain ⟨hfirst, hrest⟩ := hkeys
      rcases List.mem_cons.mp hx with rfl | hmem
      · have hnone : rest.filter (fun y => key y = key x) = [] := by
          rw [List.filter_eq_nil_iff]
          intro y hy hkey
          exact hfirst (of_decide_eq_true hkey ▸ List.mem_map_of_mem hy)
        rw [List.filter_cons_of_pos (by simp), hnone]
      · have hne : ¬ key z = key x := fun heq => hfirst (heq ▸ List.mem_map_of_mem hmem)
        rw [List.filter_cons_of_neg (by simpa using hne)]
        exact ih hrest hmem

/-- The size of a set is the number of different elements that it was made from. -/
theorem size_ofList (xs : List String) : (Std.HashSet.ofList xs).size = xs.toFinset.card := by
  rw [← Std.HashSet.length_toList, ← List.toFinset_card_of_nodup (nodup_toList _)]
  congr 1
  ext x
  simp

theorem sumIntegers_eq_sum (xs : List Int) : sumIntegers xs = xs.sum := rfl

/-! ## Members and their files -/

/-- The member is a file as a whole. -/
def ShownMember.CoversFile (f : ShownFile) (m : ShownMember) : Prop :=
  m.lines = f.lines ∧ m.startLine = none ∧ m.endLine = none

/-- The member is a span of lines of a file, no shorter than the minimum. -/
def ShownMember.SpansBlock (minLines : Int) (f : ShownFile) (m : ShownMember) : Prop :=
  ∃ start stop : Int, m.startLine = some start ∧ m.endLine = some stop ∧
    1 ≤ start ∧ start ≤ stop ∧ stop ≤ f.lines ∧ m.lines = stop - start + 1 ∧ minLines ≤ m.lines

/-- The path of the member is that of exactly one of the files, which has its language, and on the level of
    its group the member is the file or a span of it. -/
def ShownMember.Placed (minLines : Int) (files : List ShownFile) (kind : DuplicateKind) (m : ShownMember) :
    Prop :=
  ∃ f, files.filter (fun f => f.relativePath = m.path) = [f] ∧ f.language = m.language ∧
    (kind.isBlock = false → m.CoversFile f) ∧ (kind.isBlock = true → m.SpansBlock minLines f)

/-- The blocks of the file lie in its lines and are no shorter than the minimum. -/
def FileRecord.BlocksWithin (minLines : Int) (r : FileRecord) : Prop :=
  ∀ b ∈ r.blocks, 1 ≤ b.startLine ∧ b.startLine ≤ b.endLine ∧ (b.endLine : Int) ≤ r.lines ∧
    b.startLine + b.lineCount = b.endLine + 1 ∧ minLines ≤ b.lineCount

theorem FileRecord.blocksWithin_ofContent {minLines : Nat} (hmin : 1 ≤ minLines) (path : Path)
    (relativePath : String) (language : Language) (size : Nat) (content : String) :
    (FileRecord.ofContent path relativePath language size minLines content).BlocksWithin minLines := by
  intro b hb
  have hspan := (extractBlocks_spans hmin _ _).2 b hb
  have hlong := extractBlocks_long _ _ _ b hb
  have hpos : 0 < b.lineCount := List.length_pos_iff.mpr hspan.nonempty
  have hlength := hspan.length_eq
  refine ⟨hspan.starts, by omega, ?_, hlength, by exact_mod_cast hlong⟩
  show (b.endLine : Int) ≤ ((Text.splitLines content).length : Int)
  exact_mod_cast hspan.ends

section Members

variable {minLines : Int} {records : List FileRecord} {kind : DuplicateKind}

/-- The files of a report have the paths of the records. -/
theorem relativePath_shown (records : List FileRecord) :
    (records.map FileRecord.shown).map ShownFile.relativePath = records.map FileRecord.relativePath :=
  List.map_map

/-- A record is the only one of the files with its path. -/
theorem filter_shown_eq_singleton (hpaths : (records.map FileRecord.relativePath).Nodup) {r : FileRecord}
    (hr : r ∈ records) :
    (records.map FileRecord.shown).filter (fun f => f.relativePath = r.relativePath) = [r.shown] :=
  @filter_eq_singleton _ _ _ ShownFile.relativePath _ (by rwa [relativePath_shown]) _ (List.mem_map_of_mem hr)

theorem Member.placed_ofFile (hpaths : (records.map FileRecord.relativePath).Nodup)
    (hkind : kind.isBlock = false) {r : FileRecord} (hr : r ∈ records) :
    (Member.ofFile r).shown.Placed minLines (records.map FileRecord.shown) kind := by
  refine ⟨r.shown, filter_shown_eq_singleton hpaths hr, rfl, fun _ => ⟨rfl, rfl, rfl⟩, ?_⟩
  intro hblock
  rw [hkind] at hblock
  cases hblock

theorem Member.placed_ofBlock (hpaths : (records.map FileRecord.relativePath).Nodup)
    (hkind : kind.isBlock = true) {r : FileRecord} (hr : r ∈ records)
    (hwithin : r.BlocksWithin minLines) {b : CodeBlock} (hb : b ∈ r.blocks) :
    (Member.ofBlock r b).shown.Placed minLines (records.map FileRecord.shown) kind := by
  refine ⟨r.shown, filter_shown_eq_singleton hpaths hr, rfl, ?_, ?_⟩
  · intro hfile
    rw [hkind] at hfile
    cases hfile
  · intro _
    obtain ⟨hstart, horder, hend, hlength, hlong⟩ := hwithin b hb
    refine ⟨b.startLine, b.endLine, rfl, rfl, by omega, by omega, hend, ?_, hlong⟩
    show (b.lineCount : Int) = b.endLine - b.startLine + 1
    omega

variable {ι : Type} {member : ι → Member} {items : List ι} {groups : List DuplicateGroup}

/-- The members of groups by a key are those of the items. -/
theorem GroupsByKey.exists_item {key : ι → String} (h : GroupsByKey kind key member items groups)
    {g : DuplicateGroup} (hg : g ∈ groups) {m : Member} (hm : m ∈ g.members) :
    ∃ i ∈ items, m = member i := by
  obtain ⟨shown, rfl, _, hshown⟩ := h
  obtain ⟨s, hs, rfl⟩ := List.mem_map.mp hg
  rw [(hshown s hs).2] at hm
  obtain ⟨i, hi, rfl⟩ := List.mem_map.mp hm
  exact ⟨i, (List.mem_filter.mp hi).1, rfl⟩

/-- The members of groups of pairs are those of the items. -/
theorem GroupsOfPairs.exists_item {apart : ι → ι → Prop}
    (h : GroupsOfPairs kind apart member items groups) {g : DuplicateGroup} (hg : g ∈ groups)
    {m : Member} (hm : m ∈ g.members) : ∃ i ∈ items, m = member i := by
  obtain ⟨i, hi, j, hj, hmembers, _⟩ := h.exists_items hg
  rw [hmembers] at hm
  simp only [List.mem_cons, List.not_mem_nil, or_false] at hm
  rcases hm with rfl | rfl
  · exact ⟨i, hi, rfl⟩
  · exact ⟨j, hj, rfl⟩

end Members

/-- **Every member of every group of a report is placed**, wherever the scans were stopped. -/
theorem reportDuplicates_placed (host : RunHost) (settings : Settings) (root : Path) (totalFiles : Nat)
    {minLines : Int} {records : List FileRecord} (hpaths : (records.map FileRecord.relativePath).Nodup)
    (hwithin : ∀ r ∈ records, r.BlocksWithin minLines) :
    let report := (reportDuplicates host settings root totalFiles records).2
    ∀ g ∈ report.exact ++ report.similar, ∀ m ∈ g.members,
      m.shown.Placed minLines (records.map FileRecord.shown) g.kind := by
  intro report g hg m hm
  have hexactFiles := exactFileGroups_byKey id records
  rw [List.map_id] at hexactFiles
  have hexactBlocks := exactBlockGroups_byKey id (List.map_id (allBlocks records))
  let options := similarityOptions settings host.processors
  let stop := host.stops settings.timeout
  let files := similarFiles options records stop ⟨0, false⟩ (host.turn .similarFile)
  have hsimilarFiles := similarFiles_ofPairs options records stop ⟨0, false⟩ (host.turn .similarFile)
  have hsimilarBlocks := similarBlocks_ofPairs options records stop files.session (host.turn .similarBlock)
  rcases List.mem_append.mp hg with hexact | hsimilar
  · rcases List.mem_append.mp hexact with hfile | hblock
    · obtain ⟨r, hr, rfl⟩ := hexactFiles.exists_item hfile hm
      rw [hexactFiles.kind_eq g hfile]
      exact Member.placed_ofFile hpaths rfl hr
    · obtain ⟨⟨r, b⟩, hrb, rfl⟩ := hexactBlocks.exists_item hblock hm
      obtain ⟨r', hr, hb⟩ := List.mem_flatMap.mp hrb
      obtain ⟨b', hb, heq⟩ := List.mem_map.mp hb
      cases heq
      rw [hexactBlocks.kind_eq g hblock]
      exact Member.placed_ofBlock hpaths rfl hr (hwithin r hr) hb
  · rcases List.mem_append.mp hsimilar with hfile | hblock
    · obtain ⟨⟨r, index⟩, hr, rfl⟩ := hsimilarFiles.exists_item hfile hm
      rw [hsimilarFiles.kind_eq g hfile]
      exact Member.placed_ofFile hpaths rfl (List.fst_mem_of_mem_zipIdx hr)
    · obtain ⟨⟨place, r, b⟩, hrb, rfl⟩ := hsimilarBlocks.exists_item hblock hm
      obtain ⟨hr, hb⟩ := (mem_placedBlocks records).mp hrb
      have hr := List.mem_of_getElem? hr
      rw [hsimilarBlocks.kind_eq g hblock]
      exact Member.placed_ofBlock hpaths rfl hr (hwithin r hr) (List.mem_of_getElem? hb)

/-! ## The whole report -/

/-- The figures that a report shows agree with the lists that it shows, and the members of its groups with the
    analysed files. -/
structure ShownReport.Consistent (minLines : Int) (shown : ShownReport) : Prop where
  analyzed_eq : shown.summary.analyzedFiles = shown.files.length
  analyzed_le : shown.summary.analyzedFiles ≤ shown.summary.totalFiles
  paths_nodup : (shown.files.map ShownFile.relativePath).Nodup
  blocks_eq : shown.summary.duplicateBlocks = shown.exact.length + shown.similar.length
  lines_eq : shown.summary.duplicateLines = (shown.groups.map ShownGroup.duplicateLines).sum
  affected_eq : shown.summary.affectedFiles =
    (shown.groups.flatMap fun g => g.members.map ShownMember.path).toFinset.card
  affected_le : shown.summary.affectedFiles ≤ shown.summary.analyzedFiles
  members_placed : ∀ g ∈ shown.groups, ∀ m ∈ g.members, m.Placed minLines shown.files g.kind

/-- Members that are placed have paths of the files, so there are no more different ones than there are files. -/
theorem card_memberPaths_le {minLines : Int} {groups : List ShownGroup} {files : List ShownFile}
    (hplaced : ∀ g ∈ groups, ∀ m ∈ g.members, m.Placed minLines files g.kind) :
    (groups.flatMap fun g => g.members.map ShownMember.path).toFinset.card ≤ files.length := by
  calc (groups.flatMap fun g => g.members.map ShownMember.path).toFinset.card
      ≤ (files.map ShownFile.relativePath).toFinset.card := by
        apply Finset.card_le_card
        intro path hpath
        obtain ⟨g, hg, hpath⟩ := List.mem_flatMap.mp (List.mem_toFinset.mp hpath)
        obtain ⟨m, hm, rfl⟩ := List.mem_map.mp hpath
        obtain ⟨f, hf, _⟩ := hplaced g hg m hm
        have hmem : f ∈ files.filter (fun f => f.relativePath = m.path) := hf ▸ List.mem_singleton_self f
        obtain ⟨hmem, hfpath⟩ := List.mem_filter.mp hmem
        rw [List.mem_toFinset, ← of_decide_eq_true hfpath]
        exact List.mem_map_of_mem hmem
    _ ≤ (files.map ShownFile.relativePath).length := List.toFinset_card_le _
    _ = files.length := List.length_map _

theorem DuplicateReport.shown_duplicateLines (r : DuplicateReport) :
    r.shown.groups.map ShownGroup.duplicateLines = (r.exact ++ r.similar).map DuplicateGroup.duplicateLines := by
  rw [shown_groups, List.map_map]
  rfl

/-- The paths of the members that are shown are those of the members. -/
theorem DuplicateReport.shown_memberPaths (r : DuplicateReport) :
    (r.shown.groups.flatMap fun g => g.members.map ShownMember.path) = memberPaths (r.exact ++ r.similar) := by
  rw [shown_groups, List.flatMap_map]
  apply List.flatMap_congr
  intro g _
  exact List.map_map

/-- A report on files with different paths, whose blocks lie in their lines, is consistent. -/
theorem reportDuplicates_consistent (host : RunHost) (settings : Settings) (root : Path) {totalFiles : Nat}
    {minLines : Int} {records : List FileRecord}
    (hpaths : (records.map FileRecord.relativePath).Nodup)
    (hwithin : ∀ r ∈ records, r.BlocksWithin minLines) (htotal : records.length ≤ totalFiles) :
    (reportDuplicates host settings root totalFiles records).2.shown.Consistent minLines := by
  have hplaced := reportDuplicates_placed host settings root totalFiles hpaths hwithin
  set report := (reportDuplicates host settings root totalFiles records).2 with hreport
  have hfiles : report.shown.files = records.map FileRecord.shown := rfl
  have hmembers : ∀ g ∈ report.shown.groups, ∀ m ∈ g.members, m.Placed minLines report.shown.files g.kind := by
    rw [DuplicateReport.shown_groups, List.forall_mem_map]
    intro g hg m hm
    obtain ⟨member, hmember, rfl⟩ := List.mem_map.mp hm
    exact hplaced g hg member hmember
  have haffected : report.shown.summary.affectedFiles =
      (report.shown.groups.flatMap fun g => g.members.map ShownMember.path).toFinset.card := by
    rw [report.shown_memberPaths]
    exact congrArg Nat.cast (size_ofList _)
  constructor
  case analyzed_eq =>
    rw [hfiles, List.length_map]
    rfl
  case analyzed_le =>
    show (records.length : Int) ≤ (totalFiles : Int)
    exact_mod_cast htotal
  case paths_nodup =>
    rw [hfiles, relativePath_shown]
    exact hpaths
  case blocks_eq =>
    show ((report.exact ++ report.similar).length : Int) = _
    simp [DuplicateReport.shown]
  case lines_eq =>
    rw [report.shown_duplicateLines]
    exact sumIntegers_eq_sum _
  case affected_eq => exact haffected
  case affected_le =>
    have hcard := card_memberPaths_le hmembers
    rw [hfiles, List.length_map] at hcard
    rw [haffected]
    show _ ≤ (records.length : Int)
    exact_mod_cast hcard
  case members_placed => exact hmembers

/-- **The figures of a report agree.** In what every successful search returns, for every tree, under all
    settings that are accepted and wherever the scans are stopped, the figures of the summary are those of the
    lists, and every member of a group is a file that was analysed, or a span of at least the least number of
    lines in one. -/
theorem report_figures_agree (fs : FileSystem) (host : RunHost) (raw : RawSettings)
    (htree : fs.tree.IsTree) (hsuccess : succeeded (findDuplicates fs host raw).2 = true) :
    ∃ settings shown, (Settings.read raw).2 = .ok settings ∧
      ShownReport.read? (findDuplicates fs host raw).2 = some shown ∧
      shown.Consistent (settings.thresholds.int .minLines) := by
  obtain ⟨settings, report, hread, hrun, _, hshown⟩ := findDuplicates_shown hsuccess
  refine ⟨settings, report.shown, hread, hshown, ?_⟩
  obtain ⟨root, stopped, _, _, rfl⟩ := runDuplicates_eq_ok.mp hrun
  have hmin : 1 ≤ settings.thresholds.int .minLines := (Settings.read_sound hread).least_le_int rfl
  refine reportDuplicates_consistent host settings root ?_ ?_ ?_
  · exact records_relativePath_nodup htree _ root _
  · intro r hr
    obtain ⟨path, size, content, rfl⟩ := records_ofContent hr
    have hpos : 1 ≤ (settings.thresholds.int .minLines).toNat := by omega
    have hwithin := FileRecord.blocksWithin_ofContent hpos path (path.relativeText root)
      (duplicateLanguages.classify path) size content
    rwa [Int.toNat_of_nonneg (by omega)] at hwithin
  · exact length_records_le _ root _

theorem report_figures_agree_copies :
    copiedDisk.tree.IsTree ∧ succeeded (findDuplicates copiedDisk cancelledHost wholeDisk).2 = true ∧
      ∃ shown, ShownReport.read? (findDuplicates copiedDisk cancelledHost wholeDisk).2 = some shown ∧
        (∃ g ∈ shown.exact, g.holds ⟨"a.py", none, none⟩ ⟨"b.py", none, none⟩ = true) ∧ shown.Consistent 5 := by
  obtain ⟨hsuccess, hgroup⟩ := copiedDisk_shown
  obtain ⟨settings, shown, hread, hshown, hconsistent⟩ :=
    report_figures_agree copiedDisk cancelledHost wholeDisk copiedDisk_isTree hsuccess
  obtain rfl := Except.ok.inj (wholeDisk_read.symm.trans hread)
  exact ⟨copiedDisk_isTree, hsuccess, shown, hshown, hgroup shown hshown, hconsistent⟩

end CodeCensus
