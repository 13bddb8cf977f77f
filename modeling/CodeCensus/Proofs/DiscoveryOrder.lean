import CodeCensus.Proofs.RepeatedContent
import CodeCensus.Proofs.SetSimilarity
import CodeCensus.Proofs.SimilarPairs
import Mathlib.Data.Multiset.Bind

/-!
# The order of discovery

Files are taken in the order in which they were found, and groups are made in that order. What is found to be
duplicated does not depend on it. An exact group has all items with its hash, whatever order they come in. A
similar pair is looked at from its earlier item only, but the comparison has two equal sides: similarity, the
rule that leaves pairs out and the smaller number of lines are the same from either one. So what a scan reports
is a sum over pairs that no reordering changes; for blocks, it is a sum over pairs of different files of what
their blocks have in common.

## Contents
- `pairSum` — what the pairs of a list bring together, with `pairSum_perm` and `pairSum_flatMap`;
- `DuplicateGroup.repeatedContent`, `DuplicateGroup.unorderedPair` — what a group says, in no order;
- `groupBy_perm` — exact groups of reordered items;
- `pairReport` — what is reported of two candidates, with `pairReport_comm`;
- `similarFiles_pairSum`, `similarBlocks_pairSum` — the reports of the two scans as sums over pairs of files;
- `discovery_order_irrelevant` — all four kinds of groups.
-/

namespace CodeCensus

/-! ## Sums over pairs -/

section PairSums

variable {α β γ : Type}

/-- What the pairs of a list bring together, the earlier element of each pair first. -/
def pairSum (g : α → α → Multiset β) (xs : List α) : Multiset β :=
  (orderedPairs xs : Multiset (α × α)).bind fun p => g p.1 p.2

theorem pairSum_cons (g : α → α → Multiset β) (x : α) (xs : List α) :
    pairSum g (x :: xs) = (xs : Multiset α).bind (g x) + pairSum g xs := by
  unfold pairSum
  show ((xs.map (fun y => (x, y)) ++ orderedPairs xs : List (α × α)) : Multiset (α × α)).bind _ = _
  rw [← Multiset.coe_add, Multiset.add_bind, ← Multiset.map_coe, Multiset.bind_map]

/-- **The order of a list does not matter** for what its pairs bring, if neither element of a pair comes first. By
    induction on the reordering: when two neighbours change places, only their own pair is turned round. -/
theorem pairSum_perm {g : α → α → Multiset β} (hsymm : ∀ x y, g x y = g y x) {xs ys : List α}
    (h : xs.Perm ys) : pairSum g xs = pairSum g ys := by
  induction h with
  | nil => rfl
  | cons x hrest ih =>
      rw [pairSum_cons, pairSum_cons, ih, Multiset.coe_eq_coe.mpr hrest]
  | swap x y rest =>
      rw [pairSum_cons, pairSum_cons, pairSum_cons, pairSum_cons, ← Multiset.cons_coe, ← Multiset.cons_coe,
        Multiset.cons_bind, Multiset.cons_bind, hsymm y x]
      abel
  | trans _ _ ih ih' => exact ih.trans ih'

theorem pairSum_congr {g g' : α → α → Multiset β} {xs : List α}
    (h : ∀ x y, (x, y) ∈ orderedPairs xs → g x y = g' x y) : pairSum g xs = pairSum g' xs := by
  apply Multiset.bind_congr
  rintro ⟨x, y⟩ hp
  exact h x y hp

theorem pairSum_map (g : β → β → Multiset γ) (f : α → β) (xs : List α) :
    pairSum g (xs.map f) = pairSum (fun x y => g (f x) (f y)) xs := by
  induction xs with
  | nil => rfl
  | cons x xs ih =>
      rw [List.map_cons, pairSum_cons, pairSum_cons, ih, ← Multiset.map_coe, Multiset.bind_map]

theorem pairSum_append (g : α → α → Multiset β) (xs ys : List α) :
    pairSum g (xs ++ ys) =
      pairSum g xs + pairSum g ys + (xs : Multiset α).bind fun x => (ys : Multiset α).bind (g x) := by
  induction xs with
  | nil =>
      show pairSum g ys = 0 + pairSum g ys + 0
      rw [zero_add, add_zero]
  | cons x xs ih =>
      rw [List.cons_append, pairSum_cons, pairSum_cons, ih, ← Multiset.coe_add, Multiset.add_bind,
        ← Multiset.cons_coe, Multiset.cons_bind]
      abel

/-- The pairs of a list of parts: those in one part, and those of two different parts. -/
theorem pairSum_flatMap (g : β → β → Multiset γ) (f : α → List β) (xs : List α) :
    pairSum g (xs.flatMap f) = ((xs : Multiset α).bind fun x => pairSum g (f x)) +
      pairSum (fun x y => (f x : Multiset β).bind fun a => (f y : Multiset β).bind (g a)) xs := by
  induction xs with
  | nil => rfl
  | cons x xs ih =>
      -- the pairs of the first part with all others, sorted by the other part
      have hacross : ((f x : Multiset β).bind fun a => (xs.flatMap f : Multiset β).bind (g a)) =
          (xs : Multiset α).bind fun y => (f x : Multiset β).bind fun a => (f y : Multiset β).bind (g a) := by
        simp only [← Multiset.coe_bind, Multiset.bind_assoc]
        exact Multiset.bind_bind _ _
      rw [List.flatMap_cons, pairSum_append, ih, pairSum_cons, hacross, ← Multiset.cons_coe,
        Multiset.cons_bind]
      abel

/-- Positions that nothing reads are left out. -/
theorem bind_zipIdx (g : α → Multiset β) (xs : List α) :
    ((xs.zipIdx : Multiset (α × Nat)).bind fun x => g x.1) = (xs : Multiset α).bind g := by
  rw [← List.zipIdx_map_fst 0 xs, ← Multiset.map_coe, Multiset.bind_map, List.zipIdx_map_fst]

theorem pairSum_zipIdx (g : α → α → Multiset β) (xs : List α) :
    pairSum (fun x y => g x.1 y.1) xs.zipIdx = pairSum g xs := by
  rw [← pairSum_map g Prod.fst xs.zipIdx, List.zipIdx_map_fst]

end PairSums

/-! ## Groups in no order -/

namespace DuplicateGroup

/-- What a group of identical items says, in no order. -/
def repeatedContent (g : DuplicateGroup) : DuplicateKind × Option String × Multiset Member :=
  (g.kind, g.hash, g.members)

/-- What a group of a similar pair says, in no order. -/
def unorderedPair (g : DuplicateGroup) : DuplicateKind × Multiset Member × Value × Int :=
  (g.kind, g.members, g.similarity, g.duplicateLines)

/-- What is said of at least two locations depends on their order in nothing but that. -/
theorem repeatedContent_ofMembers? (kind : DuplicateKind) (members : List Member) (similarity : Value)
    (lines : Int) (hash content : Option String) :
    (ofMembers? kind members similarity lines hash content).map repeatedContent =
      if 2 ≤ members.length then some (kind, hash, (members : Multiset Member)) else none := by
  match members with
  | [] => rfl
  | [_] => rfl
  | first :: second :: others =>
      have hmany : 2 ≤ (first :: second :: others).length := Nat.le_add_left 2 others.length
      rw [if_pos hmany]
      rfl

end DuplicateGroup

/-! ## Exact groups -/

/-- **Exact groups of reordered items** have the same locations under the same hashes, whatever else the groups
    are given. -/
theorem groupBy_perm {α : Type} {kind : DuplicateKind} (key : α → String) (member : α → Member)
    (group? : String → List α → Option DuplicateGroup)
    (hgroup : ∀ k xs, ∃ similarity duplicateLines content, group? k xs =
      DuplicateGroup.ofMembers? kind (xs.map member) similarity duplicateLines (some k) content)
    {items items' : List α} (h : items.Perm items') :
    Multiset.map DuplicateGroup.repeatedContent ((groupBy key items).entries.filterMap fun e => group? e.1 e.2) =
      Multiset.map DuplicateGroup.repeatedContent
        ((groupBy key items').entries.filterMap fun e => group? e.1 e.2) := by
  have hkeys : (items.map key).eraseDups.Perm (items'.map key).eraseDups := by
    apply (List.perm_ext_iff_of_nodup (nodup_eraseDups _) (nodup_eraseDups _)).mpr
    intro k
    rw [List.mem_eraseDups, List.mem_eraseDups]
    exact (h.map key).mem_iff
  have hsame : ∀ k, (group? k (items.filter fun x => key x = k)).map DuplicateGroup.repeatedContent =
      (group? k (items'.filter fun x => key x = k)).map DuplicateGroup.repeatedContent := by
    intro k
    have hmembers := (h.filter fun x => decide (key x = k)).map member
    obtain ⟨_, _, _, heq⟩ := hgroup k (items.filter fun x => key x = k)
    obtain ⟨_, _, _, heq'⟩ := hgroup k (items'.filter fun x => key x = k)
    rw [heq, heq', DuplicateGroup.repeatedContent_ofMembers?, DuplicateGroup.repeatedContent_ofMembers?,
      hmembers.length_eq, Multiset.coe_eq_coe.mpr hmembers]
  simp only [groupBy_entries, Multiset.map_coe, List.filterMap_map, List.map_filterMap, Function.comp_def, hsame]
  exact Multiset.coe_eq_coe.mpr (hkeys.filterMap _)

/-! ## Similar pairs -/

instance (options : SimilarityOptions) (a b : Std.HashSet String) : Decidable (Alike options a b) :=
  inferInstanceAs (Decidable (_ ∧ _ ∧ _))

section Pairs

variable {ι : Type} (options : SimilarityOptions) (kind : DuplicateKind)
  (excluded : Candidate → Candidate → Bool)

/-- What is reported of two candidates: the pair if they are alike and not left out, or nothing. -/
def pairReport (a b : Candidate) : Multiset (DuplicateKind × Multiset Member × Value × Int) :=
  if excluded a b = false ∧ Alike options a.tokens b.tokens then
    {(groupOf kind a.member b.member a.tokens b.tokens a.lines b.lines).unorderedPair}
  else 0

theorem alike_comm (a b : Std.HashSet String) : Alike options a b ↔ Alike options b a := by
  unfold Alike
  rw [jaccard_comm a b]
  exact and_left_comm

theorem unorderedPair_groupOf_comm (m n : Member) (a b : Std.HashSet String) (k l : Int) :
    (groupOf kind m n a b k l).unorderedPair = (groupOf kind n m b a l k).unorderedPair := by
  have hmembers : (([m, n] : List Member) : Multiset Member) = ([n, m] : List Member) :=
    Multiset.coe_eq_coe.mpr (List.Perm.swap n m [])
  show (kind, (([m, n] : List Member) : Multiset Member), Value.float (jaccard a b), min k l) =
    (kind, (([n, m] : List Member) : Multiset Member), Value.float (jaccard b a), min l k)
  rw [hmembers, jaccard_comm a b, min_comm k l]

/-- **A pair looks the same from either side**, if the rule that leaves pairs out has two equal sides. -/
theorem pairReport_comm (hexcluded : ∀ a b, excluded a b = excluded b a) (a b : Candidate) :
    pairReport options kind excluded a b = pairReport options kind excluded b a := by
  unfold pairReport
  rw [hexcluded a b, unorderedPair_groupOf_comm]
  simp only [alike_comm options a.tokens b.tokens]

/-- How the work is divided and whether pairs are skipped is nothing to a report. -/
theorem pairReport_ofWork (workers : Nat) (prune : Bool) :
    pairReport { options with workers, prune } kind excluded = pairReport options kind excluded := rfl

/-- What a scan that is not stopped reports, as a sum over the pairs of the items that its candidates are picked
    from. -/
theorem scanPairs_pairSum (candidate : ι → Candidate) (items : List ι) (session : Session)
    (turn : Nat → Nat) :
    Multiset.map DuplicateGroup.unorderedPair (scanPairs options kind excluded
        (items.filterMap (candidate? options candidate)) (fun _ => false) session turn).groups =
      pairSum (fun x y => pairReport options kind excluded (candidate x) (candidate y)) items := by
  have hpair : ∀ x y, pairReport options kind excluded (candidate x) (candidate y) =
      ((itemGroup? options kind excluded candidate x y).map DuplicateGroup.unorderedPair).toList := by
    intro x y
    unfold pairReport
    split
    · rename_i hreported
      rw [(itemGroup?_eq_some options kind excluded candidate).mpr ⟨hreported.1, hreported.2, rfl⟩]
      rfl
    · rename_i hsilent
      cases hgroup : itemGroup? options kind excluded candidate x y with
      | none => rfl
      | some g =>
          obtain ⟨hdiffer, halike, _⟩ := (itemGroup?_eq_some options kind excluded candidate).mp hgroup
          exact absurd ⟨hdiffer, halike⟩ hsilent
  rw [scanPairs_items options kind excluded candidate items fun _ => rfl, Multiset.map_coe,
    List.map_filterMap, List.filterMap_eq_flatMap_toList, ← Multiset.coe_bind]
  unfold pairSum
  simp only [hpair]

end Pairs

theorem sameContent_comm (a b : Candidate) : sameContent a b = sameContent b a := by
  show (a.hash == b.hash) = (b.hash == a.hash)
  exact BEq.comm

/-! ## The two scans -/

section Reports

variable (options : SimilarityOptions) (records : List FileRecord)

/-- A file as a candidate, wherever it was found. -/
def foundFile (r : FileRecord) : Candidate :=
  ⟨0, .ofList r.tokens, r.contentHash, .ofFile r, r.lines⟩

/-- A block as a candidate, wherever its file was found. -/
def foundBlock (r : FileRecord) (b : CodeBlock) : Candidate :=
  ⟨0, .ofList (tokenize b.content), b.hash, .ofBlock r b, b.lineCount⟩

/-- Two blocks of one file are left out. -/
theorem pairReport_sameFile (kind : DuplicateKind) {a b : Candidate} (hfile : a.fileIndex = b.fileIndex) :
    pairReport options kind sameFileOrText a b = 0 := by
  unfold pairReport
  apply if_neg
  rintro ⟨hdiffer, _⟩
  exact (sameFileOrText_eq_false.mp hdiffer).1 hfile

/-- Of blocks of two files, those with the same text are left out. -/
theorem pairReport_otherFile (kind : DuplicateKind) {a b : Candidate} (hne : a.fileIndex ≠ b.fileIndex) :
    pairReport options kind sameFileOrText a b = pairReport options kind sameContent a b := by
  have hrule : sameFileOrText a b = false ↔ sameContent a b = false := by
    rw [sameFileOrText_eq_false, sameContent_eq_false]
    exact and_iff_right hne
  unfold pairReport
  simp only [hrule]

/-- What is reported of the blocks of two files, each block of one with each of the other. -/
def blockPairs (r r' : FileRecord) : Multiset (DuplicateKind × Multiset Member × Value × Int) :=
  (r.blocks : Multiset CodeBlock).bind fun b => (r'.blocks : Multiset CodeBlock).bind fun b' =>
    pairReport options .similarBlock sameContent (foundBlock r b) (foundBlock r' b')

theorem blockPairs_comm (r r' : FileRecord) : blockPairs options r r' = blockPairs options r' r := by
  unfold blockPairs
  rw [Multiset.bind_bind]
  refine Multiset.bind_congr fun b' _ => Multiset.bind_congr fun b _ => ?_
  exact pairReport_comm options .similarBlock sameContent sameContent_comm _ _

/-- **The scan of the files** reports a sum over pairs of files, whose positions do not matter. -/
theorem similarFiles_pairSum (session : Session) (turn : Nat → Nat) :
    Multiset.map DuplicateGroup.unorderedPair
        (similarFiles options records (fun _ => false) session turn).groups =
      pairSum (fun r r' => pairReport options .similarFile sameContent (foundFile r) (foundFile r'))
        records := by
  have hscan := scanPairs_pairSum options .similarFile sameContent
    (fun x : FileRecord × Nat => ⟨x.2, .ofList x.1.tokens, x.1.contentHash, .ofFile x.1, x.1.lines⟩)
    records.zipIdx session turn
  rw [← pairSum_zipIdx]
  exact hscan

/-- The blocks of one file with their positions. -/
def blocksOf (x : FileRecord × Nat) : List ((Nat × Nat) × FileRecord × CodeBlock) :=
  x.1.blocks.zipIdx.map fun y => ((x.2, y.2), x.1, y.1)

theorem fileIndex_of_mem_blocksOf {x : FileRecord × Nat} {p : (Nat × Nat) × FileRecord × CodeBlock}
    (hp : p ∈ blocksOf x) : (blockItem p).fileIndex = x.2 := by
  obtain ⟨y, _, rfl⟩ := List.mem_map.mp hp
  rfl

theorem bind_blocksOf {β : Type} (g : FileRecord × CodeBlock → Multiset β) (x : FileRecord × Nat) :
    ((Multiset.ofList (blocksOf x)).bind fun p => g p.2) =
      (x.1.blocks : Multiset CodeBlock).bind fun b => g (x.1, b) := by
  unfold blocksOf
  rw [← Multiset.map_coe, Multiset.bind_map]
  exact bind_zipIdx (fun b => g (x.1, b)) x.1.blocks

/-- Two files found at different positions bring the pairs of their blocks. -/
theorem blocksOf_across {x y : FileRecord × Nat} (hne : x.2 ≠ y.2) :
    ((Multiset.ofList (blocksOf x)).bind fun p => (Multiset.ofList (blocksOf y)).bind fun q =>
        pairReport options .similarBlock sameFileOrText (blockItem p) (blockItem q)) =
      blockPairs options x.1 y.1 := by
  have hpair : ∀ p ∈ blocksOf x, ∀ q ∈ blocksOf y,
      pairReport options .similarBlock sameFileOrText (blockItem p) (blockItem q) =
        pairReport options .similarBlock sameContent (foundBlock p.2.1 p.2.2) (foundBlock q.2.1 q.2.2) := by
    intro p hp q hq
    have hfile : (blockItem p).fileIndex ≠ (blockItem q).fileIndex := by
      rw [fileIndex_of_mem_blocksOf hp, fileIndex_of_mem_blocksOf hq]
      exact hne
    exact pairReport_otherFile options .similarBlock hfile
  calc
    _ = (Multiset.ofList (blocksOf x)).bind fun p => (Multiset.ofList (blocksOf y)).bind fun q =>
          pairReport options .similarBlock sameContent (foundBlock p.2.1 p.2.2)
            (foundBlock q.2.1 q.2.2) :=
      Multiset.bind_congr fun p hp => Multiset.bind_congr fun q hq => hpair p hp q hq
    _ = (Multiset.ofList (blocksOf x)).bind fun p => (y.1.blocks : Multiset CodeBlock).bind fun b =>
          pairReport options .similarBlock sameContent (foundBlock p.2.1 p.2.2) (foundBlock y.1 b) :=
      Multiset.bind_congr fun p _ => bind_blocksOf (fun o => pairReport options .similarBlock sameContent
        (foundBlock p.2.1 p.2.2) (foundBlock o.1 o.2)) y
    _ = blockPairs options x.1 y.1 :=
      bind_blocksOf (fun o => (y.1.blocks : Multiset CodeBlock).bind fun b =>
        pairReport options .similarBlock sameContent (foundBlock o.1 o.2) (foundBlock y.1 b)) x

/-- One file alone brings none. -/
theorem blocksOf_within (x : FileRecord × Nat) :
    pairSum (fun p q => pairReport options .similarBlock sameFileOrText (blockItem p) (blockItem q))
      (blocksOf x) = 0 := by
  have hpair : ∀ p q, (p, q) ∈ orderedPairs (blocksOf x) →
      pairReport options .similarBlock sameFileOrText (blockItem p) (blockItem q) = 0 := by
    intro p q hpq
    obtain ⟨hp, hq⟩ := mem_of_mem_orderedPairs hpq
    apply pairReport_sameFile
    rw [fileIndex_of_mem_blocksOf hp, fileIndex_of_mem_blocksOf hq]
  rw [pairSum_congr hpair]
  exact Multiset.bind_zero _

/-- **The scan of the blocks** reports a sum over pairs of files, whose positions matter only in that they
    differ. -/
theorem similarBlocks_pairSum (session : Session) (turn : Nat → Nat) :
    Multiset.map DuplicateGroup.unorderedPair
        (similarBlocks options records (fun _ => false) session turn).groups =
      pairSum (blockPairs options) records := by
  have hplaced : placedBlocks records = records.zipIdx.flatMap blocksOf := rfl
  have hacross : ∀ x y : FileRecord × Nat, (x, y) ∈ orderedPairs records.zipIdx → x.2 ≠ y.2 := by
    intro x y hxy
    exact ((mem_orderedPairs (fun _ _ => Nat.lt_asymm) (zipIdx_pairwise records)).mp hxy).2.2.ne
  unfold similarBlocks
  rw [blockCandidates_eq, scanPairs_pairSum, hplaced, pairSum_flatMap,
    pairSum_congr fun x y hxy => blocksOf_across options (hacross x y hxy), pairSum_zipIdx]
  simp only [blocksOf_within, Multiset.bind_zero, zero_add]

/-- **The order of discovery does not decide what is duplicated.** For files found in any other order, with any
    number of workers, in any order of their turns, with or without pruning, the same locations share a content
    and the same pairs are similar, with the same coefficient and number of lines. -/
theorem discovery_order_irrelevant {records records' : List FileRecord} (h : records.Perm records')
    (options : SimilarityOptions) (workers : Nat) (prune : Bool) (session session' : Session)
    (turn turn' : Nat → Nat) :
    Multiset.map DuplicateGroup.repeatedContent (exactFileGroups records) =
        Multiset.map DuplicateGroup.repeatedContent (exactFileGroups records') ∧
      Multiset.map DuplicateGroup.repeatedContent (exactBlockGroups records) =
        Multiset.map DuplicateGroup.repeatedContent (exactBlockGroups records') ∧
      Multiset.map DuplicateGroup.unorderedPair
          (similarFiles options records (fun _ => false) session turn).groups =
        Multiset.map DuplicateGroup.unorderedPair (similarFiles { options with workers, prune } records'
          (fun _ => false) session' turn').groups ∧
      Multiset.map DuplicateGroup.unorderedPair
          (similarBlocks options records (fun _ => false) session turn).groups =
        Multiset.map DuplicateGroup.unorderedPair (similarBlocks { options with workers, prune } records'
          (fun _ => false) session' turn').groups := by
  refine ⟨?_, ?_, ?_, ?_⟩
  · unfold exactFileGroups
    exact groupBy_perm FileRecord.contentHash Member.ofFile exactFileGroup? (fun _ _ => ⟨_, _, _, rfl⟩) h
  · have hblocks : (allBlocks records).Perm (allBlocks records') := h.flatMap_right _
    unfold exactBlockGroups
    exact groupBy_perm (fun o : FileRecord × CodeBlock => o.2.hash) (fun o => Member.ofBlock o.1 o.2)
      exactBlockGroup? (fun _ _ => ⟨_, _, _, rfl⟩) hblocks
  · rw [similarFiles_pairSum, similarFiles_pairSum, pairReport_ofWork]
    exact pairSum_perm (fun r r' => pairReport_comm options .similarFile sameContent sameContent_comm _ _) h
  · have hpairs : blockPairs { options with workers, prune } = blockPairs options := by
      unfold blockPairs
      rw [pairReport_ofWork]
    rw [similarBlocks_pairSum, similarBlocks_pairSum, hpairs]
    exact pairSum_perm (blockPairs_comm options) h

/-- Two files with the same content and one that is similar to both, found in the other order: each comes first
    where it was second, and the groups say the same. -/
theorem discovery_order_irrelevant_reversed :
    let file (name content : String) : FileRecord := ⟨⟨.root, [name]⟩, name, .python, 3, 1, content, [], ["x"]⟩
    let records := [file "a.py" "same", file "b.py" "same", file "c.py" "other"]
    let options : SimilarityOptions := ⟨.int 0, 0, true, 1⟩
    let similar := similarFiles options records (fun _ => false) ⟨0, false⟩ id
    let turned := similarFiles { options with workers := 2, prune := false } records.reverse (fun _ => false)
      ⟨0, false⟩ id
    records.Perm records.reverse ∧
      (exactFileGroups records).map (fun g => g.first.path) = ["a.py"] ∧
      (exactFileGroups records.reverse).map (fun g => g.first.path) = ["b.py"] ∧
      similar.groups.map (fun g => (g.first.path, g.second.path)) = [("a.py", "c.py"), ("b.py", "c.py")] ∧
      turned.groups.map (fun g => (g.first.path, g.second.path)) = [("c.py", "b.py"), ("c.py", "a.py")] ∧
      Multiset.map DuplicateGroup.repeatedContent (exactFileGroups records) =
        Multiset.map DuplicateGroup.repeatedContent (exactFileGroups records.reverse) ∧
      Multiset.map DuplicateGroup.unorderedPair similar.groups =
        Multiset.map DuplicateGroup.unorderedPair turned.groups := by
  intro file records options similar turned
  have hperm : records.Perm records.reverse := (List.reverse_perm records).symm
  have hsame := discovery_order_irrelevant hperm options 2 false ⟨0, false⟩ ⟨0, false⟩ id id
  refine ⟨hperm, rfl, rfl, ?_, ?_, hsame.1, hsame.2.2.1⟩
  · show (scanPairs _ _ _ _ _ _ _).groups.map _ = _
    rw [scanPairs_groups _ _ _ _ fun _ => rfl]
    simp [fileCandidates, records, file, options, orderedPairs, pairGroup?, pairSimilarity?_eq, sameContent,
      reaches_zero, Member.ofFile]
  · show (scanPairs _ _ _ _ _ _ _).groups.map _ = _
    rw [scanPairs_groups _ _ _ _ fun _ => rfl]
    simp [fileCandidates, records, file, options, orderedPairs, pairGroup?, pairSimilarity?_eq, sameContent,
      reaches_zero, Member.ofFile]

end Reports

end CodeCensus
