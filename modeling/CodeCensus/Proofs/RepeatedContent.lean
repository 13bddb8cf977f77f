import CodeCensus.Proofs.CheckedRuns
import CodeCensus.Proofs.ExactGroups
import Mathlib.Data.List.Forall2

/-!
# Repeated content

Files with one hash, and blocks with one hash, are exact duplicates of each other. The groups that are reported
divide up the repeated ones among them: each hash that occurs at least twice has one group, with all of its
occurrences and no others. An occurrence is an item with its position, so that equal items at two places are
two occurrences. Groups stand in the order in which their hashes first occur, and occurrences in the order of
the items.

## Contents
- `eraseDups_pairwise` — different elements in the order in which they first occur;
- `occurrencesOf`, `GroupsRepeats` — what groups of repeated items are;
- `groupsRepeats_of_groupBy` — grouping by key gives such groups;
- `exact_groups_partition` — the exact groups of files and of blocks.
-/

namespace CodeCensus

/-! ## Order of first occurrence -/

/-- The different elements of a list come in the order in which they first occur. -/
theorem eraseDups_pairwise (xs : List String) :
    xs.eraseDups.Pairwise fun a b => xs.idxOf a < xs.idxOf b := by
  induction xs using List.reverseRecOn with
  | nil => exact .nil
  | append_singleton xs x ih =>
      have hold : xs.eraseDups.Pairwise fun a b => (xs ++ [x]).idxOf a < (xs ++ [x]).idxOf b := by
        refine ih.imp_of_mem ?_
        intro a b ha hb hlt
        rwa [List.idxOf_append_of_mem (List.mem_eraseDups.mp ha),
          List.idxOf_append_of_mem (List.mem_eraseDups.mp hb)]
      rw [eraseDups_concat]
      split
      next => exact hold
      next hnew =>
        refine List.pairwise_append.mpr ⟨hold, List.pairwise_singleton _ x, ?_⟩
        intro a ha b hb
        have ha := List.mem_eraseDups.mp ha
        rw [List.mem_singleton.mp hb, List.idxOf_append_of_mem ha, List.idxOf_append_of_notMem hnew]
        exact Nat.lt_add_right _ (List.idxOf_lt_length_of_mem ha)

/-! ## Groups of repeated items -/

section Groups

variable {α : Type}

/-- The items with a key, each with its position, in order. -/
def occurrencesOf (key : α → String) (items : List α) (k : String) : List (α × Nat) :=
  items.zipIdx.filter fun occurrence => key occurrence.1 = k

/-- The group has the occurrences of a key for its members. -/
structure GroupOf (kind : DuplicateKind) (key : α → String) (member : α → Member) (items : List α)
    (k : String) (g : DuplicateGroup) : Prop where
  kind_eq : g.kind = kind
  hash_eq : g.hash = some k
  members_eq : g.members = (occurrencesOf key items k).map fun occurrence => member occurrence.1

/-- The groups are those of the given keys, one for each: the keys that occur at least twice, in the order in
    which they first occur. No occurrence is in two of the groups. -/
structure GroupsRepeats (kind : DuplicateKind) (key : α → String) (member : α → Member) (items : List α)
    (keys : List String) (groups : List DuplicateGroup) : Prop where
  one_each : List.Forall₂ (GroupOf kind key member items) keys groups
  repeated : ∀ k, k ∈ keys ↔ 2 ≤ (occurrencesOf key items k).length
  first_seen : keys.Pairwise fun k l => (items.map key).idxOf k < (items.map key).idxOf l
  apart : keys.Pairwise fun k l => (occurrencesOf key items k).Disjoint (occurrencesOf key items l)

theorem occurrencesOf_map_fst (key : α → String) (items : List α) (k : String) :
    (occurrencesOf key items k).map Prod.fst = items.filter fun x => key x = k := by
  conv_rhs => rw [← List.zipIdx_map_fst 0 items, List.filter_map]
  rfl

theorem occurrencesOf_disjoint {key : α → String} {items : List α} {k l : String} (hne : k ≠ l) :
    (occurrencesOf key items k).Disjoint (occurrencesOf key items l) := by
  intro occurrence hk hl
  have hk := of_decide_eq_true (List.mem_filter.mp hk).2
  have hl := of_decide_eq_true (List.mem_filter.mp hl).2
  exact hne (hk.symm.trans hl)

/-- A key that occurs is the key of an item. -/
theorem mem_map_of_occurs {key : α → String} {items : List α} {k : String}
    (h : 0 < (occurrencesOf key items k).length) : k ∈ items.map key := by
  obtain ⟨occurrence, hoccurrence⟩ := List.length_pos_iff_exists_mem.mp h
  obtain ⟨hmem, hkey⟩ := List.mem_filter.mp hoccurrence
  exact List.mem_map.mpr ⟨occurrence.1, List.fst_mem_of_mem_zipIdx hmem, of_decide_eq_true hkey⟩

/-- What is made of some elements and of no others, one by one. -/
theorem forall₂_filterMap_of {β γ : Type} {R : β → γ → Prop} {p : β → Bool} {f : β → Option γ}
    (hmade : ∀ x, p x = true → ∃ y, f x = some y ∧ R x y) (hnone : ∀ x, p x = false → f x = none)
    (xs : List β) : List.Forall₂ R (xs.filter p) (xs.filterMap f) := by
  induction xs with
  | nil => exact .nil
  | cons x xs ih =>
      cases hx : p x with
      | false =>
          rw [List.filter_cons_of_neg (by simp [hx]), List.filterMap_cons_none (hnone x hx)]
          exact ih
      | true =>
          obtain ⟨y, hy, hR⟩ := hmade x hx
          rw [List.filter_cons_of_pos hx, List.filterMap_cons_some hy]
          exact .cons hR ih

/-- At least two locations make a group. -/
theorem DuplicateGroup.exists_ofMembers? {kind : DuplicateKind} {members : List Member} {similarity : Value}
    {duplicateLines : Int} {hash content : Option String} (h : 2 ≤ members.length) :
    ∃ g, DuplicateGroup.ofMembers? kind members similarity duplicateLines hash content = some g ∧
      g.kind = kind ∧ g.hash = hash ∧ g.members = members := by
  match members with
  | [] => exact absurd h (Nat.not_succ_le_zero 1)
  | [_] => exact absurd h (Nat.not_succ_le_self 1)
  | _ :: _ :: _ => exact ⟨_, rfl, rfl, rfl, rfl⟩

/-- Fewer than two locations make none. -/
theorem DuplicateGroup.ofMembers?_eq_none {kind : DuplicateKind} {members : List Member} {similarity : Value}
    {duplicateLines : Int} {hash content : Option String} (h : members.length < 2) :
    DuplicateGroup.ofMembers? kind members similarity duplicateLines hash content = none := by
  match members with
  | [] => rfl
  | [_] => rfl
  | _ :: _ :: others => exact absurd h (Nat.not_lt_of_le (Nat.le_add_left 2 others.length))

/-- **Grouping by key divides up the repeated items**, whatever else the groups are given. -/
theorem groupsRepeats_of_groupBy {kind : DuplicateKind} (key : α → String) (member : α → Member)
    (group? : String → List α → Option DuplicateGroup)
    (hgroup : ∀ k xs, ∃ similarity duplicateLines content, group? k xs =
      DuplicateGroup.ofMembers? kind (xs.map member) similarity duplicateLines (some k) content)
    (items : List α) :
    ∃ keys, GroupsRepeats kind key member items keys
      ((groupBy key items).entries.filterMap fun e => group? e.1 e.2) := by
  have hpart : ((items.map key).eraseDups.filter fun k => decide (2 ≤ (occurrencesOf key items k).length)).Sublist
      (items.map key).eraseDups := List.filter_sublist
  have hofKey : ∀ k, ∃ similarity duplicateLines content, group? k (items.filter fun x => key x = k) =
      DuplicateGroup.ofMembers? kind ((occurrencesOf key items k).map (member ∘ Prod.fst)) similarity
        duplicateLines (some k) content := by
    intro k
    rw [← List.map_map, occurrencesOf_map_fst]
    exact hgroup k _
  refine ⟨_, ?_, ?_, (eraseDups_pairwise _).sublist hpart, ?_⟩
  · rw [groupBy_entries, List.filterMap_map]
    apply forall₂_filterMap_of
    · intro k hk
      obtain ⟨similarity, duplicateLines, content, heq⟩ := hofKey k
      have hlong : 2 ≤ ((occurrencesOf key items k).map (member ∘ Prod.fst)).length := by
        rw [List.length_map]
        exact of_decide_eq_true hk
      obtain ⟨g, hg, hkind, hhash, hmembers⟩ := DuplicateGroup.exists_ofMembers? hlong
      exact ⟨g, heq.trans hg, hkind, hhash, hmembers⟩
    · intro k hk
      obtain ⟨similarity, duplicateLines, content, heq⟩ := hofKey k
      have hshort : ((occurrencesOf key items k).map (member ∘ Prod.fst)).length < 2 := by
        rw [List.length_map]
        exact Nat.lt_of_not_le (of_decide_eq_false hk)
      exact heq.trans (DuplicateGroup.ofMembers?_eq_none hshort)
  · intro k
    rw [List.mem_filter, List.mem_eraseDups, decide_eq_true_iff]
    exact ⟨And.right, fun hlong => ⟨mem_map_of_occurs (Nat.lt_of_lt_of_le Nat.two_pos hlong), hlong⟩⟩
  · exact ((nodup_eraseDups _).sublist hpart).imp occurrencesOf_disjoint

end Groups

/-! ## Exact duplicates -/

/-- **The exact groups divide up the repeated files and the repeated blocks.** There is one group for each hash
    that occurs at least twice, among the files or among the blocks of all files, in the order in which the
    hashes first occur; its members are all occurrences of the hash, in order, and no occurrence is in two
    groups. No group that is made has fewer than two members. -/
theorem exact_groups_partition (records : List FileRecord) :
    (∃ hashes, GroupsRepeats .exactFile FileRecord.contentHash Member.ofFile records hashes
      (exactFileGroups records)) ∧
      (∃ hashes, GroupsRepeats .exactBlock (fun o : FileRecord × CodeBlock => o.2.hash)
        (fun o => Member.ofBlock o.1 o.2) (allBlocks records) hashes (exactBlockGroups records)) ∧
      Checked.exactFileGroups records = .ok (exactFileGroups records) ∧
      Checked.exactBlockGroups records = .ok (exactBlockGroups records) := by
  refine ⟨?_, ?_, Checked.exactFileGroups_eq records, Checked.exactBlockGroups_eq records⟩
  · exact groupsRepeats_of_groupBy _ _ exactFileGroup? (fun _ _ => ⟨_, _, _, rfl⟩) records
  · exact groupsRepeats_of_groupBy _ _ exactBlockGroup? (fun _ _ => ⟨_, _, _, rfl⟩) (allBlocks records)

end CodeCensus
