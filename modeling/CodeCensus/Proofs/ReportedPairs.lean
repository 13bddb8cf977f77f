import CodeCensus.Proofs.AcceptedSettings
import CodeCensus.Proofs.BlockSpans
import CodeCensus.Proofs.ExactGroups
import CodeCensus.Proofs.GatheredFiles
import CodeCensus.Proofs.ShownReport
import CodeCensus.Proofs.StoppedScan

/-!
# Pairs of locations in a report

A report has groups of two levels, files and blocks, and on each level two kinds: exact groups, with all
locations that share a text, and similar groups, with two locations of different texts each. No pair of
locations is in two groups of a level. Exact groups have no location in common, since a location has one
text; similar groups are made from different pairs; and a pair in both an exact and a similar group would
have the same text and different texts. All of it rests on locations that tell items apart: paths are
different because the walk finds no file twice, and spans because blocks do not overlap.

## Contents
- `Location`, `ShownGroup.holds` — a pair of locations in a group;
- `GroupsOfPairs`, `scanPairs_ofPairs` — groups made from pairs of items, as a scan makes them;
- `level_pairs_once` — the groups of one level;
- `fileLocations_nodup`, `blockLocations_nodup` — locations tell files and blocks apart;
- `ShownReport.NoPairTwice`, `no_pair_reported_twice` — the whole report.
-/

namespace CodeCensus

/-- Where something lies: its file, and its first and last line when it is a block. -/
structure Location where
  path : String
  startLine : Option Int
  endLine : Option Int
  deriving DecidableEq

/-- The location of a member. -/
def ShownMember.location (m : ShownMember) : Location := ⟨m.path, m.startLine, m.endLine⟩

/-- The group has both locations among its members. -/
def ShownGroup.holds (x y : Location) (g : ShownGroup) : Bool :=
  (g.members.map ShownMember.location).contains x && (g.members.map ShownMember.location).contains y

/-- The location of a member, as it is shown. -/
def Member.location (m : Member) : Location := m.shown.location

theorem DuplicateGroup.holds_shown {g : DuplicateGroup} {x y : Location} :
    g.shown.holds x y = true ↔
      x ∈ g.members.map Member.location ∧ y ∈ g.members.map Member.location := by
  have hlocations : g.shown.members.map ShownMember.location = g.members.map Member.location := List.map_map
  unfold ShownGroup.holds
  rw [hlocations, Bool.and_eq_true, List.contains_iff_mem, List.contains_iff_mem]

/-! ## Groups of pairs -/

/-- Groups of one kind, each shown with the pair of items that it is made from; the pairs are different ones
    and their items are apart. -/
def GroupsOfPairs {ι : Type} (kind : DuplicateKind) (apart : ι → ι → Prop) (member : ι → Member)
    (items : List ι) (groups : List DuplicateGroup) : Prop :=
  ∃ shown : List ((ι × ι) × DuplicateGroup), groups = shown.map Prod.snd ∧
    (shown.map Prod.fst).Sublist (orderedPairs items) ∧
    ∀ s ∈ shown, s.2.kind = kind ∧ s.2.members = [member s.1.1, member s.1.2] ∧ apart s.1.1 s.1.2

/-- The groups of a scan, wherever it was stopped, are made from pairs of the items that its candidates are
    picked from. -/
theorem scanPairs_ofPairs {ι : Type} (options : SimilarityOptions) (kind : DuplicateKind)
    (excluded : Candidate → Candidate → Bool) (candidate : ι → Candidate) (items : List ι)
    (stop : Nat → Bool) (session : Session) (turn : Nat → Nat) :
    GroupsOfPairs kind (fun i j => excluded (candidate i) (candidate j) = false)
      (fun i => (candidate i).member) items
      (scanPairs options kind excluded (items.filterMap (candidate? options candidate)) stop session
        turn).groups := by
  have honest : HonestOutcome options kind excluded (items.filterMap (candidate? options candidate))
      stop session (scanPairs options kind excluded (items.filterMap (candidate? options candidate))
        stop session turn) := scanPairs_honest turn
  -- what a stopped scan reports is part of what it would have reported
  have hsublist := honest.sublist
  rw [← honest.unstopped session turn,
    scanPairs_items options kind excluded candidate items fun _ => rfl] at hsublist
  obtain ⟨pairs, hpairs, hgroups⟩ := List.sublist_filterMap_iff.mp hsublist
  obtain ⟨shown, hmap, hshown, hmade⟩ := exists_shown
    (fun p => itemGroup? options kind excluded candidate p.1 p.2) pairs
  refine ⟨shown, hgroups.trans hmap, hshown.trans hpairs, ?_⟩
  intro s hs
  obtain ⟨hapart, _, hgroup⟩ := (itemGroup?_eq_some options kind excluded candidate).mp (hmade s hs)
  rw [hgroup]
  exact ⟨rfl, rfl, hapart⟩

/-! ## One level -/

theorem length_filter_le_one {α : Type} {p : α → Bool} {xs : List α}
    (h : xs.Pairwise fun a b => p a = true → p b = true → False) : (xs.filter p).length ≤ 1 := by
  have hfilter := h.filter p
  match hxs : xs.filter p with
  | [] => simp
  | [_] => simp
  | a :: b :: rest =>
      rw [hxs, List.pairwise_cons] at hfilter
      have ha : a ∈ xs.filter p := hxs ▸ List.mem_cons_self
      have hb : b ∈ xs.filter p := hxs ▸ List.mem_cons_of_mem a List.mem_cons_self
      exact absurd (hfilter.1 b List.mem_cons_self)
        (fun hno => hno (List.mem_filter.mp ha).2 (List.mem_filter.mp hb).2)

section Level

variable {ι : Type} {items : List ι} {key : ι → String} {member : ι → Member}

/-- Different pairs of items with different locations do not have two locations in common. By induction on
    the items: two pairs with the first item differ in their second, and no other pair has the first. -/
theorem orderedPairs_locations {place : ι → Location} (hplaces : (items.map place).Nodup)
    {x y : Location} (hne : x ≠ y) :
    (orderedPairs items).Pairwise fun p q =>
      x ∈ [place p.1, place p.2] → y ∈ [place p.1, place p.2] →
        x ∈ [place q.1, place q.2] → y ∈ [place q.1, place q.2] → False := by
  induction items with
  | nil => exact List.Pairwise.nil
  | cons i rest ih =>
      rw [List.map_cons, List.nodup_cons] at hplaces
      obtain ⟨hfirst, hrest⟩ := hplaces
      refine List.pairwise_append.mpr ⟨?_, ih hrest, ?_⟩
      · refine List.pairwise_map.mpr ((List.pairwise_map.mp hrest).imp ?_)
        intro j k hjk hx hy hx' hy'
        simp only [List.mem_cons, List.not_mem_nil, or_false] at hx hy hx' hy'
        grind
      · intro p hp q hq hx hy hx' hy'
        obtain ⟨j, hj, rfl⟩ := List.mem_map.mp hp
        obtain ⟨hq₁, hq₂⟩ := mem_of_mem_orderedPairs hq
        -- one of the two locations is that of the first item
        have hfirst' : place i = place q.1 ∨ place i = place q.2 := by
          simp only [List.mem_cons, List.not_mem_nil, or_false] at hx hy hx' hy'
          grind
        rcases hfirst' with heq | heq
        · exact hfirst (heq ▸ List.mem_map_of_mem hq₁)
        · exact hfirst (heq ▸ List.mem_map_of_mem hq₂)

variable {exactGroups similarGroups : List DuplicateGroup} {exactKind similarKind : DuplicateKind}
  {apart : ι → ι → Prop} {x y : Location}

/-- A location in an exact group is that of an item with its key. -/
theorem mem_locations_byKey {g : DuplicateGroup} {k : String}
    (hg : g.members = (items.filter fun i => key i = k).map member)
    (hx : x ∈ g.members.map Member.location) :
    ∃ i ∈ items, key i = k ∧ (member i).location = x := by
  rw [hg, List.map_map] at hx
  obtain ⟨i, hi, rfl⟩ := List.mem_map.mp hx
  obtain ⟨hi, hkey⟩ := List.mem_filter.mp hi
  exact ⟨i, hi, of_decide_eq_true hkey, rfl⟩

/-- No two exact groups have a location in common. -/
theorem GroupsByKey.pairwise (hexact : GroupsByKey exactKind key member items exactGroups)
    (hplaces : (items.map fun i => (member i).location).Nodup) (x y : Location) :
    exactGroups.Pairwise fun g h => g.shown.holds x y = true → h.shown.holds x y = true → False := by
  obtain ⟨shown, rfl, hkeys, hshown⟩ := hexact
  refine List.pairwise_map.mpr ((List.pairwise_map.mp hkeys).imp_of_mem ?_)
  intro s t hs ht hst hg hh
  obtain ⟨i, hi, hikey, hix⟩ :=
    mem_locations_byKey (hshown s hs).2 (DuplicateGroup.holds_shown.mp hg).1
  obtain ⟨j, hj, hjkey, hjx⟩ :=
    mem_locations_byKey (hshown t ht).2 (DuplicateGroup.holds_shown.mp hh).1
  obtain rfl := List.inj_on_of_nodup_map hplaces hi hj (hix.trans hjx.symm)
  exact hst (hikey.symm.trans hjkey)

/-- No two similar groups have two locations in common. -/
theorem GroupsOfPairs.pairwise (hsimilar : GroupsOfPairs similarKind apart member items similarGroups)
    (hplaces : (items.map fun i => (member i).location).Nodup) (hne : x ≠ y) :
    similarGroups.Pairwise fun g h => g.shown.holds x y = true → h.shown.holds x y = true → False := by
  obtain ⟨shown, rfl, hpairs, hshown⟩ := hsimilar
  have hlocations := (orderedPairs_locations hplaces hne).sublist hpairs
  refine List.pairwise_map.mpr ((List.pairwise_map.mp hlocations).imp_of_mem ?_)
  intro s t hs ht hst hg hh
  rw [DuplicateGroup.holds_shown, (hshown s hs).2.1] at hg
  rw [DuplicateGroup.holds_shown, (hshown t ht).2.1] at hh
  exact hst hg.1 hg.2 hh.1 hh.2

/-- A similar group is that of two items that are apart. -/
theorem GroupsOfPairs.exists_items (hsimilar : GroupsOfPairs similarKind apart member items similarGroups)
    {g : DuplicateGroup} (hg : g ∈ similarGroups) :
    ∃ i ∈ items, ∃ j ∈ items, g.members = [member i, member j] ∧ apart i j := by
  obtain ⟨shown, rfl, hpairs, hshown⟩ := hsimilar
  obtain ⟨s, hs, rfl⟩ := List.mem_map.mp hg
  obtain ⟨_, hmembers, hapart⟩ := hshown s hs
  obtain ⟨hi, hj⟩ := mem_of_mem_orderedPairs (hpairs.subset (List.mem_map_of_mem hs))
  exact ⟨_, hi, _, hj, hmembers, hapart⟩

/-- **The groups of one level.** When locations tell the items apart and similar groups are made from items
    with different keys, no pair of locations is in two groups. -/
theorem level_pairs_once (hplaces : (items.map fun i => (member i).location).Nodup)
    (hexact : GroupsByKey exactKind key member items exactGroups)
    (hsimilar : GroupsOfPairs similarKind apart member items similarGroups)
    (hapart : ∀ i j, apart i j → key i ≠ key j) (hne : x ≠ y) :
    ((exactGroups ++ similarGroups).filter (·.shown.holds x y)).length ≤ 1 := by
  refine length_filter_le_one (List.pairwise_append.mpr
    ⟨hexact.pairwise hplaces x y, hsimilar.pairwise hplaces hne, ?_⟩)
  intro g hg h hh hgxy hhxy
  obtain ⟨shown, rfl, _, hshown⟩ := hexact
  obtain ⟨s, hs, rfl⟩ := List.mem_map.mp hg
  obtain ⟨a, ha, b, hb, hmembers, hab⟩ := hsimilar.exists_items hh
  rw [DuplicateGroup.holds_shown] at hgxy hhxy
  obtain ⟨i, hi, hikey, rfl⟩ := mem_locations_byKey (hshown s hs).2 hgxy.1
  obtain ⟨j, hj, hjkey, rfl⟩ := mem_locations_byKey (hshown s hs).2 hgxy.2
  simp only [hmembers, List.map_cons, List.map_nil, List.mem_cons, List.not_mem_nil, or_false] at hhxy
  -- the two items of the similar group are those of the exact group, which have one key
  have hkeys : key a ≠ key b := hapart a b hab
  rcases hhxy with ⟨hx | hx, hy | hy⟩
  · exact hne (hx.trans hy.symm)
  · obtain rfl := List.inj_on_of_nodup_map hplaces hi ha hx
    obtain rfl := List.inj_on_of_nodup_map hplaces hj hb hy
    exact hkeys (hikey.trans hjkey.symm)
  · obtain rfl := List.inj_on_of_nodup_map hplaces hi hb hx
    obtain rfl := List.inj_on_of_nodup_map hplaces hj ha hy
    exact hkeys (hjkey.trans hikey.symm)
  · exact hne (hx.trans hy.symm)

theorem GroupsByKey.kind_eq (hexact : GroupsByKey exactKind key member items exactGroups) :
    ∀ g ∈ exactGroups, g.kind = exactKind := by
  obtain ⟨shown, rfl, _, hshown⟩ := hexact
  exact List.forall_mem_map.mpr fun s hs => (hshown s hs).1

theorem GroupsOfPairs.kind_eq (hsimilar : GroupsOfPairs similarKind apart member items similarGroups) :
    ∀ g ∈ similarGroups, g.kind = similarKind := by
  obtain ⟨shown, rfl, _, hshown⟩ := hsimilar
  exact List.forall_mem_map.mpr fun s hs => (hshown s hs).1

end Level

/-! ## Files and blocks -/

section Locations

variable (options : SimilarityOptions) (records : List FileRecord) (stop : Nat → Bool)
  (session : Session) (turn : Nat → Nat)

/-- The similar file groups are made from pairs of files with different contents. -/
theorem similarFiles_ofPairs :
    GroupsOfPairs .similarFile (fun i j : FileRecord × Nat => i.1.contentHash ≠ j.1.contentHash)
      (fun i => .ofFile i.1) records.zipIdx (similarFiles options records stop session turn).groups := by
  have hpairs := scanPairs_ofPairs options .similarFile sameContent
    (fun x : FileRecord × Nat => ⟨x.2, .ofList x.1.tokens, x.1.contentHash, .ofFile x.1, x.1.lines⟩)
    records.zipIdx stop session turn
  simp only [sameContent_eq_false] at hpairs
  exact hpairs

/-- The similar block groups are made from pairs of blocks with different texts, from different files. -/
theorem similarBlocks_ofPairs :
    GroupsOfPairs .similarBlock (fun i j => i.1.1 ≠ j.1.1 ∧ i.2.2.hash ≠ j.2.2.hash)
      (fun i => .ofBlock i.2.1 i.2.2) (placedBlocks records)
      (similarBlocks options records stop session turn).groups := by
  have hpairs := scanPairs_ofPairs options .similarBlock sameFileOrText blockItem
    (placedBlocks records) stop session turn
  rw [← blockCandidates_eq] at hpairs
  simp only [sameFileOrText_eq_false] at hpairs
  exact hpairs

theorem placedBlocks_map_snd : (placedBlocks records).map Prod.snd = allBlocks records := by
  unfold placedBlocks allBlocks
  rw [List.map_flatMap]
  conv_rhs => rw [← List.zipIdx_map_fst 0 records, List.flatMap_map]
  apply List.flatMap_congr
  intro x _
  rw [List.map_map]
  conv_rhs => rw [← List.zipIdx_map_fst 0 x.1.blocks, List.map_map]
  rfl

variable {records}

/-- Files with different paths have different locations. -/
theorem fileLocations_nodup (hpaths : (records.map FileRecord.relativePath).Nodup) :
    (records.zipIdx.map fun i => (Member.ofFile i.1).location).Nodup := by
  have hplaces : (records.map fun r => (Member.ofFile r).location).Nodup := by
    refine List.pairwise_map.mpr ((List.pairwise_map.mp hpaths).imp ?_)
    intro r r' hne heq
    exact hne (congrArg Location.path heq)
  rw [← List.zipIdx_map_fst 0 records, List.map_map] at hplaces
  exact hplaces

/-- Blocks that lie one after another in files with different paths have different locations. -/
theorem blockLocations_nodup (hpaths : (records.map FileRecord.relativePath).Nodup)
    (hblocks : ∀ r ∈ records, r.blocks.Pairwise fun a b => a.startLine < b.startLine) :
    ((placedBlocks records).map fun i => (Member.ofBlock i.2.1 i.2.2).location).Nodup := by
  have hplaces : ((allBlocks records).map fun o => (Member.ofBlock o.1 o.2).location).Nodup := by
    unfold allBlocks
    refine List.pairwise_map.mpr (List.pairwise_flatMap.mpr ⟨?_, ?_⟩)
    · intro r hr
      refine List.pairwise_map.mpr ((hblocks r hr).imp ?_)
      intro a b hlt heq
      have hstart := congrArg Location.startLine heq
      simp only [Member.location, Member.shown, ShownMember.location, Member.ofBlock, Option.some.injEq] at hstart
      omega
    · refine (List.pairwise_map.mp hpaths).imp ?_
      intro r r' hne o ho o' ho' heq
      obtain ⟨b, _, rfl⟩ := List.mem_map.mp ho
      obtain ⟨b', _, rfl⟩ := List.mem_map.mp ho'
      exact hne (congrArg Location.path heq)
  rw [← placedBlocks_map_snd, List.map_map] at hplaces
  exact hplaces

/-- The blocks of a similar group are from files with different paths. -/
theorem similarBlocks_across (hpaths : (records.map FileRecord.relativePath).Nodup)
    {groups : List DuplicateGroup}
    (hgroups : GroupsOfPairs .similarBlock (fun i j => i.1.1 ≠ j.1.1 ∧ i.2.2.hash ≠ j.2.2.hash)
      (fun i => .ofBlock i.2.1 i.2.2) (placedBlocks records) groups)
    {g : DuplicateGroup} (hg : g ∈ groups) : (g.members.map Member.path).Nodup := by
  obtain ⟨⟨p, r, b⟩, hi, ⟨q, r', b'⟩, hj, hmembers, hfile, _⟩ := hgroups.exists_items hg
  have hr := ((mem_placedBlocks records).mp hi).1
  have hr' := ((mem_placedBlocks records).mp hj).1
  have hne : r.relativePath ≠ r'.relativePath := by
    intro heq
    have hlt : p.1 < (records.map FileRecord.relativePath).length := by
      rw [List.length_map]
      exact (List.getElem?_eq_some_iff.mp hr).1
    refine hfile ((List.getElem?_inj hlt hpaths).mp ?_)
    rw [List.getElem?_map, List.getElem?_map, hr, hr', Option.map_some, Option.map_some, heq]
  rw [hmembers]
  simpa [Member.ofBlock] using hne

end Locations

/-! ## The whole report -/

/-- In a report no pair of locations is in two groups of a level. The paths of the analysed files are
    different, so that locations of files are as good as files; and similar block groups are across files. -/
structure ShownReport.NoPairTwice (shown : ShownReport) : Prop where
  paths_nodup : (shown.files.map ShownFile.relativePath).Nodup
  files_once : ∀ x y : Location, x ≠ y →
    ((shown.groups.filter (!·.kind.isBlock)).filter (·.holds x y)).length ≤ 1
  blocks_once : ∀ x y : Location, x ≠ y →
    ((shown.groups.filter (·.kind.isBlock)).filter (·.holds x y)).length ≤ 1
  across_files : ∀ g ∈ shown.similar, g.kind = .similarBlock → (g.members.map ShownMember.path).Nodup

/-- The groups of a level that hold a pair are as many in a report as it shows. -/
theorem length_filter_shown (groups : List DuplicateGroup) (level : DuplicateKind → Bool) (x y : Location) :
    (((groups.map DuplicateGroup.shown).filter fun g => level g.kind).filter (·.holds x y)).length =
      ((groups.filter fun g => level g.kind).filter (·.shown.holds x y)).length := by
  rw [List.filter_map, List.filter_map, List.length_map]
  rfl

/-- The groups of each level of a report that has both levels of one kind and then both of the other. -/
theorem filter_levels {exactFiles exactBlocks similarFiles similarBlocks : List DuplicateGroup}
    (h₁ : ∀ g ∈ exactFiles, g.kind = .exactFile) (h₂ : ∀ g ∈ exactBlocks, g.kind = .exactBlock)
    (h₃ : ∀ g ∈ similarFiles, g.kind = .similarFile) (h₄ : ∀ g ∈ similarBlocks, g.kind = .similarBlock) :
    ((exactFiles ++ exactBlocks) ++ (similarFiles ++ similarBlocks)).filter (!·.kind.isBlock) =
        exactFiles ++ similarFiles ∧
      ((exactFiles ++ exactBlocks) ++ (similarFiles ++ similarBlocks)).filter (·.kind.isBlock) =
        exactBlocks ++ similarBlocks := by
  simp only [List.filter_append]
  constructor
  · rw [List.filter_eq_self.mpr, List.filter_eq_nil_iff.mpr, List.filter_eq_self.mpr,
      List.filter_eq_nil_iff.mpr, List.append_nil, List.append_nil]
    all_goals intro g hg
    · rw [h₄ g hg]; decide
    · rw [h₃ g hg]; decide
    · rw [h₂ g hg]; decide
    · rw [h₁ g hg]; decide
  · rw [List.filter_eq_nil_iff.mpr, List.filter_eq_self.mpr, List.filter_eq_nil_iff.mpr,
      List.filter_eq_self.mpr, List.nil_append, List.nil_append]
    all_goals intro g hg
    · rw [h₄ g hg]; decide
    · rw [h₃ g hg]; decide
    · rw [h₂ g hg]; decide
    · rw [h₁ g hg]; decide

/-- A report on files with different paths and blocks that lie one after another has no pair twice, wherever
    its scans were stopped. -/
theorem reportDuplicates_noPairTwice (host : RunHost) (settings : Settings) (root : Path) (totalFiles : Nat)
    {records : List FileRecord} (hpaths : (records.map FileRecord.relativePath).Nodup)
    (hblocks : ∀ r ∈ records, r.blocks.Pairwise fun a b => a.startLine < b.startLine) :
    (reportDuplicates host settings root totalFiles records).2.shown.NoPairTwice := by
  have hexactFiles : GroupsByKey .exactFile (fun i : FileRecord × Nat => i.1.contentHash)
      (fun i => .ofFile i.1) records.zipIdx (exactFileGroups records) := by
    have hbyKey := exactFileGroups_byKey (Prod.fst : FileRecord × Nat → FileRecord) records.zipIdx
    rwa [List.zipIdx_map_fst] at hbyKey
  have hexactBlocks := exactBlockGroups_byKey Prod.snd (placedBlocks_map_snd records)
  let options := similarityOptions settings host.processors
  let stop := host.stops settings.timeout
  let files := similarFiles options records stop ⟨0, false⟩ (host.turn .similarFile)
  have hsimilarFiles := similarFiles_ofPairs options records stop ⟨0, false⟩ (host.turn .similarFile)
  have hsimilarBlocks := similarBlocks_ofPairs options records stop files.session (host.turn .similarBlock)
  obtain ⟨hfiles, hblockGroups⟩ := filter_levels hexactFiles.kind_eq hexactBlocks.kind_eq
    hsimilarFiles.kind_eq hsimilarBlocks.kind_eq
  constructor
  case paths_nodup =>
    show ((records.map FileRecord.shown).map ShownFile.relativePath).Nodup
    rw [List.map_map]
    exact hpaths
  case files_once =>
    intro x y hne
    rw [DuplicateReport.shown_groups, length_filter_shown _ (fun kind => !kind.isBlock)]
    simp only [reportDuplicates]
    rw [hfiles]
    exact level_pairs_once (fileLocations_nodup hpaths) hexactFiles hsimilarFiles (fun _ _ h => h) hne
  case blocks_once =>
    intro x y hne
    rw [DuplicateReport.shown_groups, length_filter_shown]
    simp only [reportDuplicates]
    rw [hblockGroups]
    exact level_pairs_once (blockLocations_nodup hpaths hblocks) hexactBlocks hsimilarBlocks
      (fun _ _ h => h.2) hne
  case across_files =>
    intro shown hshown hkind
    obtain ⟨g, hg, rfl⟩ := List.mem_map.mp hshown
    have hpaths' : g.shown.members.map ShownMember.path = g.members.map Member.path := List.map_map
    rw [hpaths']
    rcases List.mem_append.mp hg with hg | hg
    · have hfile : g.shown.kind = .similarFile := hsimilarFiles.kind_eq g hg
      rw [hfile] at hkind
      cases hkind
    · exact similarBlocks_across hpaths hsimilarBlocks hg

/-- **No pair of locations is reported twice.** In what every successful search returns, for every tree, under
    all settings that are accepted, whenever the scans are stopped and whoever's turn it is, two files are together
    in at most one group, and so are two blocks; two blocks of one file are in no similar group together. -/
theorem no_pair_reported_twice (fs : FileSystem) (host : RunHost) (raw : RawSettings)
    (htree : fs.tree.IsTree) (hsuccess : succeeded (findDuplicates fs host raw).2 = true) :
    ∃ settings report shown, (Settings.read raw).2 = .ok settings ∧
      (runDuplicates fs host settings).2 = .ok report ∧
      (findDuplicates fs host raw).2 = report.toValue ∧
      ShownReport.read? (findDuplicates fs host raw).2 = some shown ∧ shown.NoPairTwice := by
  obtain ⟨settings, report, hread, hrun, hvalue, hshown⟩ := findDuplicates_shown hsuccess
  refine ⟨settings, report, report.shown, hread, hrun, hvalue, hshown, ?_⟩
  obtain ⟨root, stopped, _, _, rfl⟩ := runDuplicates_eq_ok.mp hrun
  refine reportDuplicates_noPairTwice host settings root _ ?_ ?_
  · exact records_relativePath_nodup htree _ root _
  · intro r hr
    obtain ⟨profile, lines, hblocks⟩ := mem_records hr
    have hmin : 1 ≤ settings.thresholds.int .minLines := (Settings.read_sound hread).least_le_int rfl
    rw [hblocks]
    exact extractBlocks_startLine (by omega) profile lines

/-- Five lines of code. -/
def copiedText : String := "a = 1\nb = 2\nc = 3\nd = 4\ne = 5\n"

/-- A file with that text, and its copy. -/
def copiedEntries : List (String × Node) :=
  [("a.py", .file copiedText.toUTF8 0), ("b.py", .file copiedText.toUTF8 0)]

/-- A disk with those two. -/
def copiedDisk : FileSystem := ⟨.directory copiedEntries, [], [], []⟩

theorem copiedDisk_isTree : copiedDisk.tree.IsTree :=
  .directory (by simp [copiedEntries]) (by simp [copiedEntries]; decide)
    (by simp [copiedEntries, Node.IsTree.file])

/-- The record of one of the files. -/
def copiedRecord (name : String) : FileRecord := .ofContent ⟨.root, [name]⟩ name .python 30 5 copiedText

section Copies

variable {name : String} (hname : name = "a.py" ∨ name = "b.py")

include hname

theorem copiedDisk_locate : copiedDisk.locate ⟨.root, [name]⟩ = .ok ([name], .file copiedText.toUTF8 0) := by
  rcases hname with rfl | rfl
  · exact FileSystem.locate_entry rfl (by simp) (by decide)
  · exact FileSystem.locate_entry rfl (by simp) (by decide)

theorem copiedDisk_classify : duplicateLanguages.classify ⟨.root, [name]⟩ = .python := by
  rcases hname with rfl | rfl
  · decide +kernel
  · decide +kernel

theorem copiedDisk_visitFile :
    copiedDisk.visitFile (duplicateWalk ⟨⟨.root, []⟩, .defaults, none, none, true⟩) ⟨.root, [name]⟩ =
      some (.ok ⟨.root, [name]⟩) := by
  refine visitFile_of_locate (copiedDisk_locate hname) ?_ ?_
  · simp [duplicateWalk, LanguageTable.isSupported, copiedDisk_classify hname]
    decide
  · intro limit hlimit
    obtain rfl := Option.some.inj hlimit
    decide +kernel

theorem copiedDisk_analyzeSource :
    analyzeSource copiedDisk 5 ⟨.root, []⟩ ⟨.root, [name]⟩ = .ok (some (copiedRecord name)) := by
  have hdecode : Text.decodeUtf8 copiedText.toUTF8.toList = .ok copiedText.toList := by decide +kernel
  have hlines : ¬(Text.splitLines copiedText).length < 5 := by decide +kernel
  have hcontent : String.ofList (Text.universalNewlines copiedText.toList) = copiedText := by decide +kernel
  have hread := FileSystem.readText_of_locate (copiedDisk_locate hname) hdecode
  rw [hcontent] at hread
  have hrelative : Path.relativeText ⟨.root, [name]⟩ ⟨.root, []⟩ = name := by
    rcases hname with rfl | rfl <;> rfl
  unfold analyzeSource
  rw [FileSystem.stat_of_locate (copiedDisk_locate hname), hread]
  simp only [bind, Except.bind, pure, Except.pure, hlines, if_false, copiedDisk_classify hname, hrelative]
  rfl

end Copies

theorem copiedDisk_records :
    (analyzeFiles ⟨.root, []⟩ (analyzeSource copiedDisk 5 ⟨.root, []⟩)
        (foundPaths ((copiedDisk.walk? (duplicateWalk ⟨⟨.root, []⟩, .defaults, none, none, true⟩)
          ⟨.root, []⟩).getD []))).results =
      [copiedRecord "a.py", copiedRecord "b.py"] := by
  have hroot : copiedDisk.locate ⟨.root, []⟩ = .ok ([], .directory copiedEntries) :=
    FileSystem.locate_root _
  have hvisit : ∀ e ∈ copiedEntries,
      copiedDisk.visitFile (duplicateWalk ⟨⟨.root, []⟩, .defaults, none, none, true⟩) (Path.child ⟨.root, []⟩ e.1) =
        some (.ok (Path.child ⟨.root, []⟩ e.1)) := by
    simp only [copiedEntries, List.forall_mem_cons, List.not_mem_nil, false_imp_iff, implies_true, and_true]
    exact ⟨copiedDisk_visitFile (.inl rfl), copiedDisk_visitFile (.inr rfl)⟩
  unfold analyzeFiles
  rw [gather_results _ (List.Perm.refl _),
    walk?_of_files hroot (by simp [copiedEntries]) (by simp [copiedEntries]) hvisit]
  show [(⟨.root, ["a.py"]⟩ : Path), ⟨.root, ["b.py"]⟩].filterMap _ = _
  simp only [List.filterMap_cons, List.filterMap_nil, copiedDisk_analyzeSource (.inl rfl),
    copiedDisk_analyzeSource (.inr rfl)]
  rfl

/-- A host with two processors that cancels the search after its first check. -/
def cancelledHost : RunHost := ⟨fun n => n ≠ 0, .ofInt 0, fun _ => .ofInt 0, 2, fun _ n => n⟩

/-- Two files with one content are a group. -/
theorem exactFileGroups_pair {r r' : FileRecord} (h : r.contentHash = r'.contentHash) :
    ∃ g, exactFileGroups [r, r'] = [g] ∧ g.members = [Member.ofFile r, Member.ofFile r'] := by
  unfold exactFileGroups
  rw [groupBy_entries]
  refine ⟨⟨.exactFile, .ofFile r, .ofFile r', [], .float (.ofInt 1), r.lines, some r'.contentHash, none⟩, ?_, rfl⟩
  simp [h, List.eraseDups_cons, exactFileGroup?, DuplicateGroup.ofMembers?]

/-- A search of that disk shows the file and its copy in an exact group. -/
theorem copiedDisk_shown :
    succeeded (findDuplicates copiedDisk cancelledHost wholeDisk).2 = true ∧
      ∀ shown, ShownReport.read? (findDuplicates copiedDisk cancelledHost wholeDisk).2 = some shown →
        ∃ g ∈ shown.exact, g.holds ⟨"a.py", none, none⟩ ⟨"b.py", none, none⟩ = true := by
  have hroot : copiedDisk.resolveWorkspace "/" ⟨.root, []⟩ = .ok ⟨.root, []⟩ :=
    FileSystem.resolveWorkspace_root rfl
  have hcheck : cancelledHost.check none 0 = .ok false := rfl
  obtain ⟨made, hmade, _⟩ := findDuplicates_succeeds wholeDisk_read hroot hcheck
  have hsuccess : succeeded (findDuplicates copiedDisk cancelledHost wholeDisk).2 = true := by
    rw [hmade]
    exact made.succeeded_toValue
  refine ⟨hsuccess, ?_⟩
  obtain ⟨settings, report, hread, hrun, _, hreport⟩ := findDuplicates_shown hsuccess
  obtain rfl := Except.ok.inj (wholeDisk_read.symm.trans hread)
  obtain ⟨root, stopped, hresolved, _, rfl⟩ := runDuplicates_eq_ok.mp hrun
  obtain rfl := Except.ok.inj (hroot.symm.trans hresolved)
  intro shown hshown
  obtain rfl := Option.some.inj (hreport.symm.trans hshown)
  have hmin : (Thresholds.defaults.int .minLines).toNat = 5 := by decide +kernel
  have hcontent : (copiedRecord "a.py").contentHash = (copiedRecord "b.py").contentHash := rfl
  obtain ⟨g, hgroups, hmembers⟩ := exactFileGroups_pair hcontent
  refine ⟨g.shown, ?_, ?_⟩
  · refine List.mem_map_of_mem (List.mem_append_left _ ?_)
    show g ∈ exactFileGroups (analyzeFiles _ (analyzeSource _ (Thresholds.defaults.int .minLines).toNat _) _).results
    rw [hmin, copiedDisk_records, hgroups]
    exact List.mem_singleton_self g
  · rw [DuplicateGroup.holds_shown, hmembers]
    simp [Member.location, Member.shown, ShownMember.location, Member.ofFile, copiedRecord, FileRecord.ofContent]

theorem no_pair_reported_twice_copies :
    copiedDisk.tree.IsTree ∧ succeeded (findDuplicates copiedDisk cancelledHost wholeDisk).2 = true ∧
      ∃ shown, ShownReport.read? (findDuplicates copiedDisk cancelledHost wholeDisk).2 = some shown ∧
        (∃ g ∈ shown.exact, g.holds ⟨"a.py", none, none⟩ ⟨"b.py", none, none⟩ = true) ∧ shown.NoPairTwice := by
  obtain ⟨hsuccess, hgroup⟩ := copiedDisk_shown
  obtain ⟨_, _, shown, _, _, _, hshown, hpairs⟩ :=
    no_pair_reported_twice copiedDisk cancelledHost wholeDisk copiedDisk_isTree hsuccess
  exact ⟨copiedDisk_isTree, hsuccess, shown, hshown, hgroup shown hshown, hpairs⟩

end CodeCensus
