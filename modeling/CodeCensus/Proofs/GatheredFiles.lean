import CodeCensus.Proofs.SimilarPairs
import CodeCensus.Proofs.WalkedFiles

/-!
# Gathered files

The results of an analysis come in the order of the walk, whatever order the files were finished in. For
duplicate detection they are the records of the files that are long enough, and no two of them have the same
path, since no two files of a walk do.

## Contents
- `gather_results` — the results, for every order of finishing;
- `walk_relativeText_nodup` — the short texts of walked paths are different;
- `analyzeSource_eq_ok`, `records_relativePath_nodup` — the records of a walk.
-/

namespace CodeCensus

/-! ## Orders of finishing -/

section Gather

variable {α : Type} {analyze : Path → Except FileError (Option α)} {paths : List Path}

theorem resultAt?_of (index : Nat) (outcome : Except FileError (Option α)) :
    resultAt? (index, FileOutcome.of outcome) = outcome.toOption.join.map fun value => (index, value) := by
  rcases outcome with _ | _ | value <;> rfl

theorem filterMap_zipIdx {β : Type} (f : Path → Option β) (paths : List Path) :
    (paths.zipIdx.filterMap fun x => f x.1) = paths.filterMap f := by
  conv_rhs => rw [← List.zipIdx_map_fst 0 paths, List.filterMap_map]
  rfl

/-- **The results of an analysis** are those of its files in walk order, in whatever order they finished. -/
theorem gather_results {finished : List (Nat × FileOutcome α)} (root : Path)
    (hfinished : finished.Perm (outcomes analyze paths)) :
    (gather root finished).results = paths.filterMap fun p => (analyze p).toOption.join := by
  -- the results in walk order, with their positions
  set placed := paths.zipIdx.filterMap fun x =>
    (analyze x.1).toOption.join.map fun value => (x.2, value) with hplaced
  have hresults : (finished.filterMap resultAt?).Perm placed := by
    refine (hfinished.filterMap resultAt?).trans (List.Perm.of_eq ?_)
    rw [outcomes, List.filterMap_map, hplaced]
    apply List.filterMap_congr
    intro x _
    exact resultAt?_of x.2 (analyze x.1)
  have hordered : placed.Pairwise fun a b => a.1 < b.1 := by
    refine List.pairwise_filterMap.mpr ((zipIdx_pairwise paths).imp ?_)
    intro x y hxy a ha b hb
    obtain ⟨_, _, rfl⟩ := Option.map_eq_some_iff.mp ha
    obtain ⟨_, _, rfl⟩ := Option.map_eq_some_iff.mp hb
    exact hxy
  have hsorted : (finished.filterMap resultAt?).mergeSort (fun a b => a.1 ≤ b.1) = placed := by
    have hmerged := (List.mergeSort_perm (finished.filterMap resultAt?)
      (fun a b => decide (a.1 ≤ b.1))).trans hresults
    have hsort : ((finished.filterMap resultAt?).mergeSort fun a b => decide (a.1 ≤ b.1)).Pairwise
        fun a b => decide (a.1 ≤ b.1) = true :=
      List.pairwise_mergeSort (by simp only [decide_eq_true_eq]; omega)
        (by simp only [Bool.or_eq_true, decide_eq_true_eq]; omega) _
    have hplaces : (placed.map Prod.fst).Nodup :=
      List.pairwise_map.mpr (hordered.imp Nat.ne_of_lt)
    refine hmerged.eq_of_pairwise ?_ hsort (hordered.imp fun h => decide_eq_true (Nat.le_of_lt h))
    intro a b ha hb hab hba
    exact List.inj_on_of_nodup_map hplaces (hmerged.subset ha) hb
      (Nat.le_antisymm (of_decide_eq_true hab) (of_decide_eq_true hba))
  unfold gather
  simp only [hsorted, hplaced, List.map_filterMap]
  rw [← filterMap_zipIdx]
  apply List.filterMap_congr
  intro x _
  simp

end Gather

/-! ## Records of a walk -/

section Records

variable {fs : FileSystem} {root : Path}

/-- **No two files of a walk have the same short text.** -/
theorem walk_relativeText_nodup (htree : fs.tree.IsTree) (options : WalkOptions) (root : Path) :
    ((foundPaths ((fs.walk? options root).getD [])).map fun p => p.relativeText root).Nodup := by
  unfold FileSystem.walk?
  split
  next place n hroot =>
    split
    case isFalse hleaf => exact List.nodup_nil
    have hdir := (FileSystem.isTree_of_locate htree hroot).2
    refine List.pairwise_map.mpr ((walkNode_pairwise hdir root).imp_of_mem ?_)
    rintro p q hp hq ⟨xs, ys, rfl, rfl, hbefore⟩ heq
    have hplain : ∀ {names : List String},
        root.below names ∈ foundPaths (fs.walkNode options root n) →
          ∀ name ∈ names, PlainName name := by
      intro names hfound
      obtain ⟨names', m, hnames, hreach, _⟩ := (mem_walkNode hdir).mp hfound
      obtain rfl := root.below_injective hnames
      exact hreach.plain hdir
    exact hbefore.ne (root.relativeText_below_injective (hplain hp) (hplain hq) heq)
  next => exact List.nodup_nil

/-- A record is made of the content of its file. -/
theorem analyzeSource_eq_ok {minLines : Nat} {path : Path} {r : FileRecord}
    (h : (analyzeSource fs minLines root path).toOption.join = some r) :
    ∃ size content, r = FileRecord.ofContent path (path.relativeText root)
      (duplicateLanguages.classify path) size minLines content := by
  unfold analyzeSource at h
  cases hstat : fs.stat path with
  | error e => simp [hstat, bind, Except.bind, Except.toOption] at h
  | ok info =>
      cases hread : fs.readText path with
      | error e => simp [hstat, hread, bind, Except.bind, Except.toOption] at h
      | ok content =>
          simp only [hstat, hread, bind, Except.bind, pure, Except.pure] at h
          split at h
          next => cases h
          next =>
            cases h
            exact ⟨_, _, rfl⟩

/-- The records of the files of a walk have different paths. -/
theorem records_relativePath_nodup (htree : fs.tree.IsTree) (options : WalkOptions) (root : Path)
    (minLines : Nat) :
    ((analyzeFiles root (analyzeSource fs minLines root)
      (foundPaths ((fs.walk? options root).getD []))).results.map FileRecord.relativePath).Nodup := by
  have hpaths := List.pairwise_map.mp (walk_relativeText_nodup htree options root)
  unfold analyzeFiles
  rw [gather_results root (List.Perm.refl _)]
  refine List.pairwise_map.mpr (List.pairwise_filterMap.mpr (hpaths.imp ?_))
  intro p q hne r hr r' hr' heq
  obtain ⟨size, content, rfl⟩ := analyzeSource_eq_ok hr
  obtain ⟨size', content', rfl⟩ := analyzeSource_eq_ok hr'
  exact hne heq

/-- There are no more records than files. -/
theorem length_records_le (minLines : Nat) (root : Path) (paths : List Path) :
    (analyzeFiles root (analyzeSource fs minLines root) paths).results.length ≤ paths.length := by
  unfold analyzeFiles
  rw [gather_results root (List.Perm.refl _)]
  exact List.length_filterMap_le _ _

/-- Every record is made of the content of some file. -/
theorem records_ofContent {minLines : Nat} {paths : List Path} {r : FileRecord}
    (h : r ∈ (analyzeFiles root (analyzeSource fs minLines root) paths).results) :
    ∃ path size content, r = FileRecord.ofContent path (path.relativeText root)
      (duplicateLanguages.classify path) size minLines content := by
  unfold analyzeFiles at h
  rw [gather_results root (List.Perm.refl _)] at h
  obtain ⟨path, _, hr⟩ := List.mem_filterMap.mp h
  obtain ⟨size, content, hr⟩ := analyzeSource_eq_ok hr
  exact ⟨path, size, content, hr⟩

/-- The blocks of a record are those of its file. -/
theorem mem_records {minLines : Nat} {paths : List Path} {r : FileRecord}
    (h : r ∈ (analyzeFiles root (analyzeSource fs minLines root) paths).results) :
    ∃ profile lines, r.blocks = extractBlocks profile minLines lines := by
  obtain ⟨path, size, content, rfl⟩ := records_ofContent h
  exact ⟨_, _, rfl⟩

end Records

end CodeCensus
