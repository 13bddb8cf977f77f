import CodeCensus.Proofs.Pruning
import CodeCensus.Proofs.Scan

/-!
# Which pairs a scan reports

A scan that is not stopped reports every pair of positions whose items are similar, once and in
lexicographic order. The argument goes from the rows that the workers compare to the pairs of candidates,
and from there to the pairs of files or blocks that the candidates were picked from.

## Contents
- `orderedPairs` — the pairs of a list, in the order of their positions;
- `scanPairs_groups` — the groups of a scan, as a function of the pairs of candidates;
- `ListsPairs`, `listsPairs_of_items` — groups that show all similar pairs of positions, each once;
- `similar_groups_exact` — the groups of the two scans.
-/

namespace CodeCensus

/-! ## Ordered pairs -/

/-- A list with the positions of its elements is ordered by them. -/
theorem zipIdx_pairwise {α : Type} (xs : List α) : xs.zipIdx.Pairwise fun x y => x.2 < y.2 := by
  have h : (xs.zipIdx.map Prod.snd).Pairwise (· < ·) := by
    rw [List.zipIdx_map_snd]
    exact List.pairwise_lt_range'
  exact List.pairwise_map.mp h

section OrderedPairs

variable {α β : Type}

/-- All pairs of elements, the earlier one first, in the order of their positions. -/
def orderedPairs : List α → List (α × α)
  | [] => []
  | x :: xs => xs.map (fun y => (x, y)) ++ orderedPairs xs

/-- The pairs of the elements that are kept are the pairs of which both elements are kept. -/
theorem orderedPairs_filterMap (f : α → Option β) (xs : List α) :
    orderedPairs (xs.filterMap f) =
      (orderedPairs xs).filterMap fun p => (f p.1).bind fun a => (f p.2).map fun b => (a, b) := by
  induction xs with
  | nil => rfl
  | cons x xs ih =>
      cases hx : f x with
      | none =>
          rw [List.filterMap_cons_none hx, ih]
          simp [orderedPairs, List.filterMap_append, List.filterMap_map, hx]
      | some a =>
          rw [List.filterMap_cons_some hx]
          simp [orderedPairs, List.filterMap_append, List.filterMap_map, hx, ih,
            List.map_filterMap]

theorem mem_of_mem_orderedPairs {xs : List α} {x y : α} (h : (x, y) ∈ orderedPairs xs) :
    x ∈ xs ∧ y ∈ xs := by
  induction xs with
  | nil => exact absurd h (by simp [orderedPairs])
  | cons z zs ih =>
      rcases List.mem_append.mp h with hmem | hmem
      · obtain ⟨w, hw, heq⟩ := List.mem_map.mp hmem
        rw [Prod.mk.injEq] at heq
        rw [← heq.1, ← heq.2]
        exact ⟨List.mem_cons_self, List.mem_cons_of_mem z hw⟩
      · obtain ⟨hx, hy⟩ := ih hmem
        exact ⟨List.mem_cons_of_mem z hx, List.mem_cons_of_mem z hy⟩

variable {before : α → α → Prop}

/-- In an ordered list, the pairs are those of an element with one that it comes before. -/
theorem mem_orderedPairs (hasymm : ∀ x y, before x y → ¬ before y x) {xs : List α}
    (hxs : xs.Pairwise before) {x y : α} :
    (x, y) ∈ orderedPairs xs ↔ x ∈ xs ∧ y ∈ xs ∧ before x y := by
  induction xs with
  | nil => simp [orderedPairs]
  | cons z zs ih =>
      obtain ⟨hz, hzs⟩ := List.pairwise_cons.mp hxs
      have hirrefl : ∀ w, ¬ before w w := fun w hw => hasymm w w hw hw
      simp only [orderedPairs, List.mem_append, List.mem_map, Prod.mk.injEq, ih hzs, List.mem_cons]
      constructor
      · rintro (⟨w, hw, rfl, rfl⟩ | ⟨hx, hy, hxy⟩)
        · exact ⟨Or.inl rfl, Or.inr hw, hz w hw⟩
        · exact ⟨Or.inr hx, Or.inr hy, hxy⟩
      · rintro ⟨rfl | hx, rfl | hy, hxy⟩
        · exact absurd hxy (hirrefl _)
        · exact Or.inl ⟨y, hy, rfl, rfl⟩
        · exact absurd hxy (hasymm _ _ (hz x hx))
        · exact Or.inr ⟨hx, hy, hxy⟩

/-- The pairs of an ordered list are in lexicographic order. -/
theorem orderedPairs_pairwise {xs : List α} (hxs : xs.Pairwise before) :
    (orderedPairs xs).Pairwise (Prod.Lex before before) := by
  induction xs with
  | nil => exact List.Pairwise.nil
  | cons z zs ih =>
      obtain ⟨hz, hzs⟩ := List.pairwise_cons.mp hxs
      refine List.pairwise_append.mpr ⟨?_, ih hzs, ?_⟩
      · exact List.pairwise_map.mpr (hzs.imp fun hxy => Prod.Lex.right z hxy)
      · intro p hp q hq
        obtain ⟨w, _, rfl⟩ := List.mem_map.mp hp
        exact Prod.Lex.left _ _ (hz q.1 (mem_of_mem_orderedPairs hq).1)

end OrderedPairs

/-! ## From rows to pairs of candidates -/

section Rows

variable (options : SimilarityOptions) (kind : DuplicateKind)
  (excluded : Candidate → Candidate → Bool)

/-- The group of a pair of candidates, if they are similar. -/
def pairGroup? (a b : Candidate) : Option DuplicateGroup :=
  (pairSimilarity? options excluded a b).map fun s =>
    ⟨kind, a.member, b.member, [], .float s, min a.lines b.lines, none, none⟩

/-- The groups of one row of the pair matrix: its first candidate with each later one. -/
def rowGroups : List Candidate → List DuplicateGroup
  | [] => []
  | first :: later => later.filterMap (pairGroup? options kind excluded first)

/-- The hits of a row name its candidates by position; looking them up gives the groups of the row. -/
theorem rowHits_groups (candidates : List Candidate) (row : Nat) :
    (rowHits options excluded candidates row).filterMap (hitGroup? kind candidates) =
      rowGroups options kind excluded (candidates.drop row) := by
  unfold rowHits
  cases hdrop : candidates.drop row with
  | nil => rfl
  | cons first later =>
      have hfirst : candidates[row]? = some first := by
        have h : (candidates.drop row)[0]? = candidates[row]? := List.getElem?_drop
        rw [hdrop] at h
        exact h.symm
      have hlater : ∀ k, candidates[row + 1 + k]? = later[k]? := by
        intro k
        have h : (candidates.drop row)[k + 1]? = candidates[row + (k + 1)]? := List.getElem?_drop
        rw [hdrop, List.getElem?_cons_succ] at h
        rw [h, Nat.add_assoc, Nat.add_comm 1 k]
      -- the groups do not need the positions, but the hits are made from them
      have hzip : later.filterMap (pairGroup? options kind excluded first) =
          later.zipIdx.filterMap fun p => pairGroup? options kind excluded first p.1 := by
        conv_lhs => rw [← List.zipIdx_map_fst 0 later]
        rw [List.filterMap_map]
        rfl
      simp only [rowGroups]
      rw [List.filterMap_filterMap, hzip]
      apply List.filterMap_congr
      rintro ⟨second, k⟩ hmem
      have hsecond : candidates[row + 1 + k]? = some second := by
        rw [hlater k]
        exact List.mk_mem_zipIdx_iff_getElem?.mp hmem
      simp only [pairGroup?]
      cases pairSimilarity? options excluded first second with
      | none => rfl
      | some similarity => simp [hitGroup?, hfirst, hsecond]

/-- All rows but the last, which has nothing after it, make up all pairs. -/
theorem rows_eq_orderedPairs (candidates : List Candidate) :
    (List.range (candidates.length - 1)).flatMap
        (fun row => rowGroups options kind excluded (candidates.drop row)) =
      (orderedPairs candidates).filterMap fun p => pairGroup? options kind excluded p.1 p.2 := by
  induction candidates with
  | nil => rfl
  | cons first later ih =>
      cases later with
      | nil => rfl
      | cons second rest =>
          have hlength : (first :: second :: rest).length - 1 = rest.length + 1 := rfl
          rw [hlength, List.range_succ_eq_map, List.flatMap_cons, List.flatMap_map]
          simp only [List.drop_zero, List.drop_succ_cons, rowGroups, orderedPairs]
          rw [List.filterMap_append, List.filterMap_map]
          exact congrArg _ ih

/-- The hits of rows in order are in the order of their positions. -/
theorem rowHits_before (candidates : List Candidate) {rows : List Nat}
    (hrows : rows.Pairwise (· < ·)) :
    (rows.flatMap (rowHits options excluded candidates)).Pairwise Hit.Before := by
  have hrow : ∀ row, ∀ h ∈ rowHits options excluded candidates row, h.row = row := by
    intro row h hmem
    unfold rowHits at hmem
    split at hmem
    · exact absurd hmem (by simp)
    · obtain ⟨⟨second, k⟩, _, heq⟩ := List.mem_filterMap.mp hmem
      obtain ⟨similarity, _, rfl⟩ := Option.map_eq_some_iff.mp heq
      rfl
  rw [List.pairwise_flatMap]
  constructor
  · intro row _
    unfold rowHits
    split
    · exact List.Pairwise.nil
    · rename_i first later _
      refine List.pairwise_filterMap.mpr ((zipIdx_pairwise later).imp ?_)
      intro p q hpq a ha b hb
      obtain ⟨_, _, rfl⟩ := Option.map_eq_some_iff.mp ha
      obtain ⟨_, _, rfl⟩ := Option.map_eq_some_iff.mp hb
      exact Or.inr ⟨rfl, by simp only; omega⟩
  · refine hrows.imp ?_
    intro i j hij a ha b hb
    refine Or.inl ?_
    rw [hrow i a ha, hrow j b hb]
    exact hij

/-- **The groups of a scan that is not stopped** are those of the pairs of its candidates, in order. -/
theorem scanPairs_groups (candidates : List Candidate) {stop : Nat → Bool}
    (hstop : ∀ n, stop n = false) (session : Session) (turn : Nat → Nat) :
    (scanPairs options kind excluded candidates stop session turn).groups =
      (orderedPairs candidates).filterMap fun p => pairGroup? options kind excluded p.1 p.2 := by
  rw [← rows_eq_orderedPairs]
  unfold scanPairs
  simp only [hstop, Bool.false_eq_true, if_false]
  split
  · rename_i hfew
    -- fewer than two candidates make no row
    have hnone : candidates.length - 1 = 0 := by omega
    rw [hnone]
    rfl
  · have hdealt := dealRows_perm options.workers (candidates.length - 1)
    obtain ⟨_, hhits⟩ := Scan.runFor_unstopped (rowHits options excluded candidates) turn hstop
      (s := Scan.start (dealRows options.workers (candidates.length - 1)) (session.checks + 1))
      (Nat.le_refl _)
    have hall := hhits.trans (hdealt.flatMap_right (rowHits options excluded candidates))
    have hsorted := Scan.sortedHits_eq hall
      (rowHits_before options excluded candidates List.pairwise_lt_range)
    unfold Scan.run
    rw [hsorted, List.filterMap_flatMap]
    simp only [rowHits_groups]

end Rows

/-! ## From candidates to positions -/

section Places

variable {ι κ : Type}

/-- The groups show the similar pairs of places, each pair once and all of them in lexicographic order. -/
def ListsPairs (before similar : κ → κ → Prop) (shows : κ → κ → DuplicateGroup → Prop)
    (groups : List DuplicateGroup) : Prop :=
  ∃ pairs : List (κ × κ),
    pairs.Pairwise (Prod.Lex before before) ∧
    (∀ i j, (i, j) ∈ pairs ↔ before i j ∧ similar i j) ∧
    List.Forall₂ (fun p g => shows p.1 p.2 g) pairs groups

/-- The groups of the pairs of items, of which each has its place and which come in the order of their
    places. -/
theorem listsPairs_of_items {before similar : κ → κ → Prop} {shows : κ → κ → DuplicateGroup → Prop}
    (hasymm : ∀ i j, before i j → ¬ before j i) {items : List ι} {place : ι → κ}
    (hitems : items.Pairwise fun x y => before (place x) (place y))
    (group? : ι → ι → Option DuplicateGroup)
    (hsimilar : ∀ i j, similar i j ↔
      ∃ x ∈ items, ∃ y ∈ items, place x = i ∧ place y = j ∧ ∃ g, group? x y = some g)
    (hshows : ∀ x ∈ items, ∀ y ∈ items, ∀ g, group? x y = some g → shows (place x) (place y) g) :
    ListsPairs before similar shows ((orderedPairs items).filterMap fun p => group? p.1 p.2) := by
  -- the similar pairs of items, each with its group
  set shown := (orderedPairs items).filterMap fun p => (group? p.1 p.2).map fun g => (p, g)
    with hshown
  have hmem : ∀ x y g, ((x, y), g) ∈ shown ↔ (x, y) ∈ orderedPairs items ∧ group? x y = some g := by
    intro x y g
    rw [hshown, List.mem_filterMap]
    constructor
    · rintro ⟨p, hp, heq⟩
      obtain ⟨g', hg', heq⟩ := Option.map_eq_some_iff.mp heq
      rw [Prod.mk.injEq] at heq
      obtain ⟨rfl, rfl⟩ := heq
      exact ⟨hp, hg'⟩
    · rintro ⟨hp, hg⟩
      exact ⟨(x, y), hp, by simp [hg]⟩
  have hgroups : (orderedPairs items).filterMap (fun p => group? p.1 p.2) = shown.map Prod.snd := by
    rw [hshown, List.map_filterMap]
    simp
  refine ⟨shown.map fun s => (place s.1.1, place s.1.2), ?_, ?_, ?_⟩
  · refine List.pairwise_map.mpr (List.pairwise_filterMap.mpr ((orderedPairs_pairwise hitems).imp ?_))
    intro p q hpq a ha b hb
    obtain ⟨_, _, rfl⟩ := Option.map_eq_some_iff.mp ha
    obtain ⟨_, _, rfl⟩ := Option.map_eq_some_iff.mp hb
    cases hpq with
    | left b₁ b₂ h => exact Prod.Lex.left _ _ h
    | right a h => exact Prod.Lex.right _ h
  · intro i j
    rw [hsimilar]
    constructor
    · intro h
      obtain ⟨⟨⟨x, y⟩, g⟩, hs, heq⟩ := List.mem_map.mp h
      rw [Prod.mk.injEq] at heq
      obtain ⟨rfl, rfl⟩ := heq
      obtain ⟨hp, hg⟩ := (hmem x y g).mp hs
      obtain ⟨hx, hy, hxy⟩ := (mem_orderedPairs (fun _ _ => hasymm _ _) hitems).mp hp
      exact ⟨hxy, x, hx, y, hy, rfl, rfl, g, hg⟩
    · rintro ⟨hij, x, hx, y, hy, rfl, rfl, g, hg⟩
      have hp := (mem_orderedPairs (fun _ _ => hasymm _ _) hitems).mpr ⟨hx, hy, hij⟩
      exact List.mem_map.mpr ⟨((x, y), g), (hmem x y g).mpr ⟨hp, hg⟩, rfl⟩
  · rw [hgroups, List.forall₂_map_left_iff, List.forall₂_map_right_iff, List.forall₂_same]
    rintro ⟨⟨x, y⟩, g⟩ hs
    obtain ⟨hp, hg⟩ := (hmem x y g).mp hs
    obtain ⟨hx, hy⟩ := mem_of_mem_orderedPairs hp
    exact hshows x hx y hy g hg

end Places

/-! ## Similar files and blocks -/

/-- Both sets have enough elements, and their coefficient reaches the threshold. -/
def Alike (options : SimilarityOptions) (a b : Std.HashSet String) : Prop :=
  options.minTokens ≤ a.size ∧ options.minTokens ≤ b.size ∧
    options.threshold.le (.double (jaccard a b)) = true

/-- The group of two locations, with the coefficient of their tokens and the smaller number of lines. -/
def groupOf (kind : DuplicateKind) (first second : Member) (a b : Std.HashSet String)
    (m n : Int) : DuplicateGroup :=
  ⟨kind, first, second, [], .float (jaccard a b), min m n, none, none⟩

section Items

variable {ι κ : Type} (options : SimilarityOptions) (kind : DuplicateKind)
  (excluded : Candidate → Candidate → Bool) (candidate : ι → Candidate)

/-- The candidate of an item with enough tokens. -/
def candidate? (x : ι) : Option Candidate :=
  if options.minTokens ≤ (candidate x).tokens.size then some (candidate x) else none

/-- The group of two items that are both candidates. -/
def itemGroup? (x y : ι) : Option DuplicateGroup :=
  (candidate? options candidate x).bind fun a =>
    (candidate? options candidate y).bind fun b => pairGroup? options kind excluded a b

/-- Two items make a group if both become candidates, are not excluded and reach the threshold. -/
theorem itemGroup?_eq_some {x y : ι} {g : DuplicateGroup} :
    itemGroup? options kind excluded candidate x y = some g ↔
      excluded (candidate x) (candidate y) = false ∧
      Alike options (candidate x).tokens (candidate y).tokens ∧
      g = groupOf kind (candidate x).member (candidate y).member (candidate x).tokens
        (candidate y).tokens (candidate x).lines (candidate y).lines := by
  unfold itemGroup? candidate? pairGroup? Alike groupOf
  rw [eq_comm (a := g)]
  by_cases hx : options.minTokens ≤ (candidate x).tokens.size
  · by_cases hy : options.minTokens ≤ (candidate y).tokens.size
    · simp only [hx, hy, if_true, Option.bind_some, pairSimilarity?_eq, true_and]
      cases excluded (candidate x) (candidate y) with
      | true => simp
      | false => split <;> simp_all
    · simp [hx, hy]
  · simp [hx]

/-- The groups of a scan that is not stopped, over the items that its candidates are picked from. -/
theorem scanPairs_items (items : List ι) {stop : Nat → Bool} (hstop : ∀ n, stop n = false)
    (session : Session) (turn : Nat → Nat) :
    (scanPairs options kind excluded (items.filterMap (candidate? options candidate)) stop session
      turn).groups =
      (orderedPairs items).filterMap fun p => itemGroup? options kind excluded candidate p.1 p.2 := by
  rw [scanPairs_groups options kind excluded _ hstop, orderedPairs_filterMap, List.filterMap_filterMap]
  congr 1
  funext p
  unfold itemGroup?
  cases candidate? options candidate p.1 with
  | none => rfl
  | some a => cases candidate? options candidate p.2 <;> rfl

/-- The groups of a scan over items that have their places. -/
theorem scanPairs_listsPairs {before similar : κ → κ → Prop}
    {shows : κ → κ → DuplicateGroup → Prop} (hasymm : ∀ i j, before i j → ¬ before j i)
    {items : List ι} (place : ι → κ)
    (hitems : items.Pairwise fun x y => before (place x) (place y))
    (hsimilar : ∀ i j, similar i j ↔ ∃ x ∈ items, ∃ y ∈ items, place x = i ∧ place y = j ∧
      excluded (candidate x) (candidate y) = false ∧
      Alike options (candidate x).tokens (candidate y).tokens)
    (hshows : ∀ x ∈ items, ∀ y ∈ items, shows (place x) (place y)
      (groupOf kind (candidate x).member (candidate y).member (candidate x).tokens
        (candidate y).tokens (candidate x).lines (candidate y).lines))
    (session : Session) (turn : Nat → Nat) :
    ListsPairs before similar shows (scanPairs options kind excluded
      (items.filterMap (candidate? options candidate)) (fun _ => false) session turn).groups := by
  rw [scanPairs_items options kind excluded candidate items fun _ => rfl]
  apply listsPairs_of_items hasymm hitems (itemGroup? options kind excluded candidate)
  · intro i j
    rw [hsimilar]
    simp only [itemGroup?_eq_some, exists_and_left, exists_eq, and_true]
  · intro x hx y hy g hg
    obtain ⟨_, _, rfl⟩ := (itemGroup?_eq_some options kind excluded candidate).mp hg
    exact hshows x hx y hy

end Items

theorem sameContent_eq_false {a b : Candidate} : sameContent a b = false ↔ a.hash ≠ b.hash := by
  simp [sameContent]

theorem sameFileOrText_eq_false {a b : Candidate} :
    sameFileOrText a b = false ↔ a.fileIndex ≠ b.fileIndex ∧ a.hash ≠ b.hash := by
  simp [sameFileOrText]

section Reports

variable (options : SimilarityOptions) (records : List FileRecord)

/-- The files at two positions differ in content and have tokens that are alike. -/
def SimilarFilesAt (i j : Nat) : Prop :=
  ∃ a b, records[i]? = some a ∧ records[j]? = some b ∧ a.contentHash ≠ b.contentHash ∧
    Alike options (.ofList a.tokens) (.ofList b.tokens)

/-- The group of the files at two positions. -/
def FileGroupAt (i j : Nat) (g : DuplicateGroup) : Prop :=
  ∃ a b, records[i]? = some a ∧ records[j]? = some b ∧
    g = groupOf .similarFile (.ofFile a) (.ofFile b) (.ofList a.tokens) (.ofList b.tokens) a.lines b.lines

/-- A block by the position of its file and its own position in the file. -/
def BlockAt (p : Nat × Nat) (r : FileRecord) (b : CodeBlock) : Prop :=
  records[p.1]? = some r ∧ r.blocks[p.2]? = some b

/-- The blocks at two positions are from different files, differ in text and have tokens that are alike. -/
def SimilarBlocksAt (p q : Nat × Nat) : Prop :=
  p.1 ≠ q.1 ∧ ∃ r b r' b', BlockAt records p r b ∧ BlockAt records q r' b' ∧ b.hash ≠ b'.hash ∧
    Alike options (.ofList (tokenize b.content)) (.ofList (tokenize b'.content))

/-- The group of the blocks at two positions. -/
def BlockGroupAt (p q : Nat × Nat) (g : DuplicateGroup) : Prop :=
  ∃ r b r' b', BlockAt records p r b ∧ BlockAt records q r' b' ∧
    g = groupOf .similarBlock (.ofBlock r b) (.ofBlock r' b') (.ofList (tokenize b.content))
      (.ofList (tokenize b'.content)) b.lineCount b'.lineCount

/-- The pairs that the scan of the files reports. -/
theorem similarFiles_listsPairs (session : Session) (turn : Nat → Nat) :
    ListsPairs (· < ·) (SimilarFilesAt options records) (FileGroupAt records)
      (similarFiles options records (fun _ => false) session turn).groups := by
  have hmem : ∀ r i, (r, i) ∈ records.zipIdx ↔ records[i]? = some r := fun r i =>
    List.mk_mem_zipIdx_iff_getElem?
  apply scanPairs_listsPairs options .similarFile sameContent
    (fun x : FileRecord × Nat => ⟨x.2, .ofList x.1.tokens, x.1.contentHash, .ofFile x.1, x.1.lines⟩)
    (fun _ _ => Nat.lt_asymm) Prod.snd (zipIdx_pairwise records)
  · intro i j
    simp only [SimilarFilesAt, sameContent_eq_false]
    constructor
    · rintro ⟨a, b, ha, hb, hne, halike⟩
      exact ⟨(a, i), (hmem a i).mpr ha, (b, j), (hmem b j).mpr hb, rfl, rfl, hne, halike⟩
    · rintro ⟨⟨a, i⟩, ha, ⟨b, j⟩, hb, rfl, rfl, hne, halike⟩
      exact ⟨a, b, (hmem a i).mp ha, (hmem b j).mp hb, hne, halike⟩
  · rintro ⟨a, i⟩ ha ⟨b, j⟩ hb
    exact ⟨a, b, (hmem a i).mp ha, (hmem b j).mp hb, rfl⟩

/-- All blocks of all files, each with its position and its file. -/
def placedBlocks : List ((Nat × Nat) × FileRecord × CodeBlock) :=
  records.zipIdx.flatMap fun x => x.1.blocks.zipIdx.map fun y => ((x.2, y.2), x.1, y.1)

theorem mem_placedBlocks {p : Nat × Nat} {r : FileRecord} {b : CodeBlock} :
    (p, r, b) ∈ placedBlocks records ↔ BlockAt records p r b := by
  obtain ⟨f, k⟩ := p
  simp only [placedBlocks, BlockAt, List.mem_flatMap, List.mem_map, Prod.mk.injEq, Prod.exists]
  constructor
  · rintro ⟨r', f', hr, b', k', hb, ⟨rfl, rfl⟩, rfl, rfl⟩
    exact ⟨List.mk_mem_zipIdx_iff_getElem?.mp hr, List.mk_mem_zipIdx_iff_getElem?.mp hb⟩
  · rintro ⟨hr, hb⟩
    exact ⟨r, f, List.mk_mem_zipIdx_iff_getElem?.mpr hr, b, k, List.mk_mem_zipIdx_iff_getElem?.mpr hb,
      ⟨rfl, rfl⟩, rfl, rfl⟩

/-- Blocks come in the order of their files, and in a file in its order. -/
theorem placedBlocks_pairwise :
    (placedBlocks records).Pairwise fun x y => Prod.Lex (· < ·) (· < ·) x.1 y.1 := by
  unfold placedBlocks
  rw [List.pairwise_flatMap]
  constructor
  · intro x _
    refine List.pairwise_map.mpr ((zipIdx_pairwise x.1.blocks).imp ?_)
    intro a b hab
    exact Prod.Lex.right _ hab
  · refine (zipIdx_pairwise records).imp ?_
    intro x y hxy a ha b hb
    obtain ⟨_, _, rfl⟩ := List.mem_map.mp ha
    obtain ⟨_, _, rfl⟩ := List.mem_map.mp hb
    exact Prod.Lex.left _ _ hxy

/-- A block as a candidate. -/
def blockItem (x : (Nat × Nat) × FileRecord × CodeBlock) : Candidate :=
  ⟨x.1.1, .ofList (tokenize x.2.2.content), x.2.2.hash, .ofBlock x.2.1 x.2.2, x.2.2.lineCount⟩

theorem blockCandidates_eq :
    blockCandidates options.minTokens records =
      (placedBlocks records).filterMap (candidate? options blockItem) := by
  unfold blockCandidates placedBlocks
  rw [List.filterMap_flatMap]
  apply List.flatMap_congr
  rintro ⟨r, f⟩ _
  show r.blocks.filterMap _ = _
  rw [List.filterMap_map]
  conv_lhs => rw [← List.zipIdx_map_fst 0 r.blocks, List.filterMap_map]
  rfl

theorem lex_asymm (p q : Nat × Nat) (h : Prod.Lex (· < ·) (· < ·) p q) :
    ¬ Prod.Lex (· < ·) (· < ·) q p := by
  rw [Prod.lex_def] at *
  omega

/-- The pairs that the scan of the blocks reports. -/
theorem similarBlocks_listsPairs (session : Session) (turn : Nat → Nat) :
    ListsPairs (Prod.Lex (· < ·) (· < ·)) (SimilarBlocksAt options records) (BlockGroupAt records)
      (similarBlocks options records (fun _ => false) session turn).groups := by
  unfold similarBlocks
  rw [blockCandidates_eq]
  apply scanPairs_listsPairs options .similarBlock sameFileOrText blockItem lex_asymm Prod.fst
    (placedBlocks_pairwise records)
  · intro p q
    simp only [SimilarBlocksAt, sameFileOrText_eq_false, blockItem]
    constructor
    · rintro ⟨hfile, r, b, r', b', hb, hb', hne, halike⟩
      exact ⟨(p, r, b), (mem_placedBlocks records).mpr hb, (q, r', b'),
        (mem_placedBlocks records).mpr hb', rfl, rfl, ⟨hfile, hne⟩, halike⟩
    · rintro ⟨⟨p, r, b⟩, hb, ⟨q, r', b'⟩, hb', rfl, rfl, ⟨hfile, hne⟩, halike⟩
      exact ⟨hfile, r, b, r', b', (mem_placedBlocks records).mp hb, (mem_placedBlocks records).mp hb',
        hne, halike⟩
  · rintro ⟨p, r, b⟩ hb ⟨q, r', b'⟩ hb'
    exact ⟨r, b, r', b', (mem_placedBlocks records).mp hb, (mem_placedBlocks records).mp hb', rfl⟩

/-- **An unstopped scan reports exactly the similar pairs.** For any number of workers, in any order of their
    turns and with or without pruning, the scan of the files has one group for every pair of positions with
    similar files, and the scan of the blocks one for every pair of positions with similar blocks, in the
    lexicographic order of the positions. -/
theorem similar_groups_exact (session : Session) (turn : Nat → Nat) :
    ListsPairs (· < ·) (SimilarFilesAt options records) (FileGroupAt records)
        (similarFiles options records (fun _ => false) session turn).groups ∧
      ListsPairs (Prod.Lex (· < ·) (· < ·)) (SimilarBlocksAt options records) (BlockGroupAt records)
        (similarBlocks options records (fun _ => false) session turn).groups :=
  ⟨similarFiles_listsPairs options records session turn,
    similarBlocks_listsPairs options records session turn⟩

end Reports

end CodeCensus
