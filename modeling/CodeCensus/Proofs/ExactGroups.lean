import CodeCensus.Duplicate.Exact
import CodeCensus.Proofs.CollectedEntries

/-!
# Groups by key

Grouping goes through the items once and adds each of them to the group of its key. What comes out can be
said without going through them: the different keys in the order in which they first occur, each with all
items that have it.

## Contents
- `groupBy_entries` — the result of grouping;
- `GroupsByKey` — groups that have their members from the items with one key each;
- `exactFileGroups_byKey`, `exactBlockGroups_byKey` — the exact groups of files and of blocks.
-/

namespace CodeCensus

/-! ## Grouping -/

/-- **The result of grouping.** Grouping collects items into lists. -/
theorem groupBy_entries {α : Type} (key : α → String) (items : List α) :
    (groupBy key items).entries =
      (items.map key).eraseDups.map fun k => (k, items.filter fun x => key x = k) := by
  have hcollect : groupBy key items = collect key [] (fun group x => group ++ [x]) items := rfl
  have hlist : ∀ xs : List α, xs.foldl (fun group x => group ++ [x]) [] = xs := by
    intro xs
    rw [List.foldl_append_eq_append, List.nil_append, ← List.flatMap_def, List.flatMap_singleton']
  rw [hcollect, collect_entries]
  simp only [hlist]

/-! ## Exact groups -/

/-- Groups of one kind, each shown with a key of its own: its members are those of all items with the key. -/
def GroupsByKey {ι : Type} (kind : DuplicateKind) (key : ι → String) (member : ι → Member)
    (items : List ι) (groups : List DuplicateGroup) : Prop :=
  ∃ shown : List (String × DuplicateGroup), groups = shown.map Prod.snd ∧
    (shown.map Prod.fst).Nodup ∧
    ∀ s ∈ shown, s.2.kind = kind ∧ s.2.members = (items.filter fun x => key x = s.1).map member

theorem DuplicateGroup.ofMembers?_eq_some {kind : DuplicateKind} {members : List Member}
    {similarity : Value} {duplicateLines : Int} {hash content : Option String} {g : DuplicateGroup}
    (h : DuplicateGroup.ofMembers? kind members similarity duplicateLines hash content = some g) :
    g.kind = kind ∧ g.members = members := by
  unfold DuplicateGroup.ofMembers? at h
  split at h
  next first second others =>
    cases h
    exact ⟨rfl, rfl⟩
  next => cases h

/-- What elements are mapped to, each shown with its element. -/
theorem exists_shown {α β : Type} (f : α → Option β) (xs : List α) :
    ∃ shown : List (α × β), xs.filterMap f = shown.map Prod.snd ∧
      (shown.map Prod.fst).Sublist xs ∧ ∀ s ∈ shown, f s.1 = some s.2 := by
  induction xs with
  | nil => exact ⟨[], rfl, .slnil, by simp⟩
  | cons x xs ih =>
      obtain ⟨shown, hmap, hsublist, hshown⟩ := ih
      cases hx : f x with
      | none =>
          rw [List.filterMap_cons_none hx]
          exact ⟨shown, hmap, hsublist.cons x, hshown⟩
      | some y =>
          rw [List.filterMap_cons_some hx, hmap]
          exact ⟨(x, y) :: shown, rfl, hsublist.cons_cons x, List.forall_mem_cons.mpr ⟨hx, hshown⟩⟩

/-- Groups that are made of the entries of a grouping, the items being grouped by what they stand for. -/
theorem groupsByKey_of_groupBy {ι α : Type} {kind : DuplicateKind} (key : α → String)
    (member : α → Member) {group? : String → List α → Option DuplicateGroup}
    (hgroup : ∀ k xs g, group? k xs = some g → g.kind = kind ∧ g.members = xs.map member)
    (stands : ι → α) (items : List ι) :
    GroupsByKey kind (fun i => key (stands i)) (fun i => member (stands i)) items
      ((groupBy key (items.map stands)).entries.filterMap fun e => group? e.1 e.2) := by
  have hmembers : ∀ k, ((items.map stands).filter fun x => key x = k).map member =
      (items.filter fun i => key (stands i) = k).map fun i => member (stands i) := by
    intro k
    rw [List.filter_map, List.map_map]
    rfl
  rw [groupBy_entries, List.filterMap_map]
  obtain ⟨shown, hmap, hsublist, hshown⟩ := exists_shown
    ((fun e => group? e.1 e.2) ∘ fun k => (k, (items.map stands).filter fun x => key x = k))
    ((items.map stands).map key).eraseDups
  refine ⟨shown, hmap, (nodup_eraseDups _).sublist hsublist, ?_⟩
  intro s hs
  obtain ⟨hkind, hs⟩ := hgroup _ _ s.2 (hshown s hs)
  exact ⟨hkind, hs.trans (hmembers s.1)⟩

/-- The exact file groups have the files with one content each. -/
theorem exactFileGroups_byKey {ι : Type} (record : ι → FileRecord) (items : List ι) :
    GroupsByKey .exactFile (fun i => (record i).contentHash) (fun i => .ofFile (record i)) items
      (exactFileGroups (items.map record)) := by
  have hgroup : ∀ hash records g, exactFileGroup? hash records = some g →
      g.kind = .exactFile ∧ g.members = records.map Member.ofFile := fun _ _ _ hg =>
    DuplicateGroup.ofMembers?_eq_some hg
  exact groupsByKey_of_groupBy FileRecord.contentHash Member.ofFile hgroup record items

/-- The exact block groups have the blocks with one text each, whatever files they stand in. -/
theorem exactBlockGroups_byKey {ι : Type} (block : ι → FileRecord × CodeBlock) {items : List ι}
    {records : List FileRecord} (hitems : items.map block = allBlocks records) :
    GroupsByKey .exactBlock (fun i => (block i).2.hash) (fun i => .ofBlock (block i).1 (block i).2)
      items (exactBlockGroups records) := by
  have hgroup : ∀ hash occurrences g, exactBlockGroup? hash occurrences = some g →
      g.kind = .exactBlock ∧ g.members = occurrences.map fun o => Member.ofBlock o.1 o.2 :=
    fun _ _ _ hg => DuplicateGroup.ofMembers?_eq_some hg
  unfold exactBlockGroups
  rw [← hitems]
  exact groupsByKey_of_groupBy (fun o => o.2.hash) (fun o => Member.ofBlock o.1 o.2) hgroup block items

end CodeCensus
