import CodeCensus.Proofs.GatheredFiles
import Mathlib.Data.List.Forall2
import Mathlib.Data.List.Sort

/-!
# A pool of workers

Files are submitted to a pool of workers in the order of the walk. A free worker begins the next file, a busy
one may finish at any time, and the outcomes that lie finished are gathered one at a time, none of them
having to wait for another. So there are many runs, and the files can be gathered in any order that the
number of workers allows. No file is lost or gathered twice on the way, every run comes to an end, and what
was gathered then is the same in all of them.

## Contents
- `Pool`, `Pool.Step`, `Pool.Run` — a pool, what can happen in it, and so many steps of it;
- `Pool.Run.files_perm`, `Pool.Run.left_eq`, `Pool.exists_step` — a run keeps the files, is bounded, and
  goes on until all files are gathered;
- `gather_skipped` — the skipped files, for every order of finishing;
- `exists_outcomes` — the files of an analysis by what became of them;
- `Gathered.OfFiles`, `gather_ofFiles` — what is gathered from all files of an analysis;
- `path_of_analyzeSource` — errors name the files that could not be analysed;
- `pool_run_gathers` — what every run gathers.
-/

namespace CodeCensus

/-! ## Pools -/

/-- The files of an analysis, each with its position, by how far they have come in a pool. -/
structure Pool where
  waiting : List (Path × Nat)
  busy : List (Path × Nat)
  finished : List (Path × Nat)
  gathered : List (Path × Nat)

namespace Pool

/-- All files are submitted before the first is gathered. -/
def submitted (paths : List Path) : Pool := ⟨paths.zipIdx, [], [], []⟩

/-- What can happen next in a pool of so many workers. -/
inductive Step (workers : Nat) : Pool → Pool → Prop
  | begins {p : Pool} {file : Path × Nat} {rest : List (Path × Nat)} (hfree : p.busy.length < workers)
      (hwaiting : p.waiting = file :: rest) :
      Step workers p { p with waiting := rest, busy := file :: p.busy }
  | finishes {p : Pool} {file : Path × Nat} {before after : List (Path × Nat)}
      (hbusy : p.busy = before ++ file :: after) :
      Step workers p { p with busy := before ++ after, finished := file :: p.finished }
  | gathers {p : Pool} {file : Path × Nat} {before after : List (Path × Nat)}
      (hfinished : p.finished = before ++ file :: after) :
      Step workers p { p with finished := before ++ after, gathered := p.gathered ++ [file] }

/-- So many steps, one after another. -/
inductive Run (workers : Nat) : Nat → Pool → Pool → Prop
  | refl {p : Pool} : Run workers 0 p p
  | tail {n : Nat} {p q r : Pool} (hrun : Run workers n p q) (hstep : Step workers q r) :
      Run workers (n + 1) p r

/-- The files of a pool, however far they have come. -/
def files (p : Pool) : List (Path × Nat) := p.gathered ++ (p.finished ++ (p.busy ++ p.waiting))

/-- The steps that the files of a pool still have to take. -/
def left (p : Pool) : Nat := 3 * p.waiting.length + 2 * p.busy.length + p.finished.length

variable {workers : Nat} {p q : Pool}

/-- A step moves one file on, and neither loses a file nor makes one. -/
theorem Step.files_perm (h : Step workers p q) : q.files.Perm p.files := by
  unfold files
  cases h with
  | begins _ hwaiting =>
      rw [hwaiting]
      exact ((List.perm_middle.symm).append_left _).append_left _
  | finishes hbusy =>
      rw [hbusy]
      refine List.Perm.append_left _ (List.perm_middle.symm.trans (List.Perm.append_left _ ?_))
      rw [List.append_assoc, List.append_assoc, List.cons_append]
      exact List.perm_middle.symm
  | gathers hfinished =>
      rw [hfinished]
      simp only [List.append_assoc, List.cons_append, List.nil_append]
      exact List.Perm.append_left _ List.perm_middle.symm

/-- A step is one of those that were left. -/
theorem Step.left_eq (h : Step workers p q) : q.left + 1 = p.left := by
  unfold left
  cases h with
  | begins _ hwaiting =>
      simp only [hwaiting, List.length_cons]
      omega
  | finishes hbusy =>
      simp only [hbusy, List.length_append, List.length_cons]
      omega
  | gathers hfinished =>
      simp only [hfinished, List.length_append, List.length_cons]
      omega

theorem Run.files_perm {n : Nat} (h : Run workers n p q) : q.files.Perm p.files := by
  induction h with
  | refl => exact List.Perm.refl _
  | tail _ hstep ih => exact hstep.files_perm.trans ih

theorem Run.left_eq {n : Nat} (h : Run workers n p q) : q.left + n = p.left := by
  induction h with
  | refl => rfl
  | tail _ hstep ih =>
      have hleft := hstep.left_eq
      omega

/-- A pool with a worker comes to no halt before all files are gathered. -/
theorem exists_step (hworkers : 1 ≤ workers) (hleft : 0 < p.left) : ∃ next, Step workers p next := by
  cases hfinished : p.finished with
  | cons file rest => exact ⟨_, .gathers (hfinished.trans (List.nil_append _).symm)⟩
  | nil =>
      cases hbusy : p.busy with
      | cons file rest => exact ⟨_, .finishes (hbusy.trans (List.nil_append _).symm)⟩
      | nil =>
          cases hwaiting : p.waiting with
          | cons file rest =>
              have hfree : p.busy.length < workers := by
                rw [hbusy]
                exact hworkers
              exact ⟨_, .begins hfree hwaiting⟩
          | nil => simp [left, hfinished, hbusy, hwaiting] at hleft

theorem files_of_left_eq_zero (h : p.left = 0) : p.files = p.gathered := by
  unfold left at h
  have hwaiting : p.waiting = [] := List.length_eq_zero_iff.mp (by omega)
  have hbusy : p.busy = [] := List.length_eq_zero_iff.mp (by omega)
  have hfinished : p.finished = [] := List.length_eq_zero_iff.mp (by omega)
  simp [files, hwaiting, hbusy, hfinished]

/-- Where no steps are left, every file that was submitted is gathered once. -/
theorem Run.gathered_perm {n : Nat} {paths : List Path} (hrun : Run workers n (submitted paths) p)
    (hleft : p.left = 0) : p.gathered.Perm paths.zipIdx := by
  rw [← files_of_left_eq_zero hleft]
  exact hrun.files_perm

theorem left_submitted (paths : List Path) : (submitted paths).left = 3 * paths.length := by
  simp [left, submitted]

end Pool

/-! ## Outcomes -/

section Outcomes

variable {α : Type} {analyze : Path → Except FileError (Option α)} {paths : List Path} {root : Path}

/-- The outcome of a file, with its position. -/
def outcomeAt (analyze : Path → Except FileError (Option α)) (file : Path × Nat) : Nat × FileOutcome α :=
  (file.2, FileOutcome.of (analyze file.1))

/-- The error of an analysis. -/
def raised? : Except FileError (Option α) → Option FileError
  | .error e => some e
  | .ok _ => none

theorem errorOf?_outcomeAt (file : Path × Nat) :
    errorOf? (outcomeAt analyze file) = raised? (analyze file.1) := by
  unfold outcomeAt
  rcases analyze file.1 with _ | _ | _ <;> rfl

theorem gather_errors (files : List (Path × Nat)) :
    (gather root (files.map (outcomeAt analyze))).errors = files.filterMap fun x => raised? (analyze x.1) := by
  show (files.map (outcomeAt analyze)).filterMap errorOf? = _
  rw [List.filterMap_map]
  exact List.filterMap_congr fun x _ => errorOf?_outcomeAt x

/-- Texts have one sorted order. -/
theorem mergeSort_eq_of_perm {xs ys : List String} (h : xs.Perm ys) :
    (xs.mergeSort fun a b => decide (a ≤ b)) = ys.mergeSort fun a b => decide (a ≤ b) := by
  have hperm := ((List.mergeSort_perm xs fun a b => decide (a ≤ b)).trans h).trans
    (List.mergeSort_perm ys fun a b => decide (a ≤ b)).symm
  exact hperm.eq_of_pairwise (fun _ _ _ _ => String.le_antisymm) (List.pairwise_mergeSort' (· ≤ ·) xs)
    (List.pairwise_mergeSort' (· ≤ ·) ys)

/-- **The skipped files of an analysis** are those of its errors in sorted order, in whatever order they
    finished. -/
theorem gather_skipped (analyze : Path → Except FileError (Option α)) {files : List (Path × Nat)}
    (root : Path) (hfiles : files.Perm paths.zipIdx) :
    (gather root (files.map (outcomeAt analyze))).skipped =
      (paths.filterMap fun p => (raised? (analyze p)).map fun e => e.path.relativeText root).mergeSort
        fun a b => decide (a ≤ b) := by
  show ((gather root (files.map (outcomeAt analyze))).errors.map _).mergeSort _ = _
  apply mergeSort_eq_of_perm
  rw [gather_errors, List.map_filterMap, ← filterMap_zipIdx]
  exact hfiles.filterMap _

theorem forall₂_filterMap {β γ : Type} (f : β → Option γ) (xs : List β) :
    List.Forall₂ (fun x y => f x = some y) (xs.filter fun x => (f x).isSome) (xs.filterMap f) := by
  induction xs with
  | nil => exact .nil
  | cons x xs ih =>
      cases hx : f x with
      | none => simpa [hx] using ih
      | some y => simpa [hx] using ih

theorem toOption_join_eq_some {outcome : Except FileError (Option α)} {value : α} :
    outcome.toOption.join = some value ↔ outcome = .ok (some value) := by
  rcases outcome with _ | _ | _ <;> simp [Except.toOption]

theorem raised?_eq_some {outcome : Except FileError (Option α)} {e : FileError} :
    raised? outcome = some e ↔ outcome = .error e := by
  cases outcome <;> simp [raised?]

/-- The files of an analysis by what became of them: those with results, in walk order, those that were
    dropped, and those with errors, in the order in which the errors came. -/
theorem exists_outcomes {files : List (Path × Nat)} (root : Path) (hfiles : files.Perm paths.zipIdx) :
    ∃ kept dropped failed : List (Path × Nat), (kept ++ (dropped ++ failed)).Perm paths.zipIdx ∧
      kept.Sublist paths.zipIdx ∧
      List.Forall₂ (fun x value => analyze x.1 = .ok (some value)) kept
        (gather root (files.map (outcomeAt analyze))).results ∧
      (∀ x ∈ dropped, analyze x.1 = .ok none) ∧
      List.Forall₂ (fun x e => analyze x.1 = .error e) failed
        (gather root (files.map (outcomeAt analyze))).errors := by
  set isKept : Path × Nat → Bool := fun x => (analyze x.1).toOption.join.isSome with hkept
  set isFailed : Path × Nat → Bool := fun x => (raised? (analyze x.1)).isSome with hfailed
  refine ⟨paths.zipIdx.filter isKept, (files.filter fun x => !isKept x).filter fun x => !isFailed x,
    files.filter isFailed, ?_, List.filter_sublist, ?_, ?_, ?_⟩
  · -- a file with an error has no result
    have hrest : (files.filter fun x => !isKept x).filter isFailed = files.filter isFailed := by
      rw [List.filter_filter]
      apply List.filter_congr
      intro x _
      simp only [hkept, hfailed]
      rcases analyze x.1 with _ | _ | _ <;> rfl
    have hsplit := List.filter_append_perm isFailed (files.filter fun x => !isKept x)
    rw [hrest] at hsplit
    have hunkept := List.perm_append_comm.trans hsplit
    exact (((hfiles.filter isKept).symm.append hunkept).trans
      (List.filter_append_perm isKept files)).trans hfiles
  · rw [gather_results root (hfiles.map (outcomeAt analyze)), ← filterMap_zipIdx]
    exact (forall₂_filterMap (fun x : Path × Nat => (analyze x.1).toOption.join) _).imp fun _ _ =>
      toOption_join_eq_some.mp
  · intro x hx
    simp only [List.mem_filter, Bool.not_eq_true', hkept, hfailed] at hx
    obtain ⟨⟨_, hnotkept⟩, hnotfailed⟩ := hx
    rcases houtcome : analyze x.1 with _ | _ | _
    · simp [houtcome, raised?] at hnotfailed
    · rfl
    · simp [houtcome, Except.toOption] at hnotkept
  · rw [gather_errors]
    exact (forall₂_filterMap (fun x : Path × Nat => raised? (analyze x.1)) _).imp fun _ _ => raised?_eq_some.mp

/-- What an analysis of files gathers, as long as every file is gathered. -/
structure Gathered.OfFiles (analyze : Path → Except FileError (Option α)) (root : Path)
    (paths : List Path) (g : Gathered α) : Prop where
  results_eq : g.results = paths.filterMap fun p => (analyze p).toOption.join
  skipped_sorted : g.skipped.Pairwise (· ≤ ·)
  skipped_perm : g.skipped.Perm
    (paths.filterMap fun p => (raised? (analyze p)).map fun e => e.path.relativeText root)
  /-- Where the errors name their files, those are the files that are skipped. -/
  skipped_files : (∀ p ∈ paths, ∀ e, analyze p = .error e → e.path = p) →
    g.skipped.Perm ((paths.filter fun p => (raised? (analyze p)).isSome).map fun p => p.relativeText root)
  /-- Each file, at its position, either gives a result, or is dropped, or gives an error to warn of. -/
  outcome_unique : ∃ kept dropped failed : List (Path × Nat),
    (kept ++ (dropped ++ failed)).Perm paths.zipIdx ∧ kept.Sublist paths.zipIdx ∧
      List.Forall₂ (fun x value => analyze x.1 = .ok (some value)) kept g.results ∧
      (∀ x ∈ dropped, analyze x.1 = .ok none) ∧
      List.Forall₂ (fun x e => analyze x.1 = .error e) failed g.errors
  /-- Nothing depends on the order in which the files were gathered. -/
  same : g.results = (analyzeFiles root analyze paths).results ∧
    g.skipped = (analyzeFiles root analyze paths).skipped

/-- The errors of an analysis, as files, where the errors name their files. -/
theorem filterMap_raised {paths : List Path} (root : Path)
    (hnamed : ∀ p ∈ paths, ∀ e, analyze p = .error e → e.path = p) :
    (paths.filterMap fun p => (raised? (analyze p)).map fun e => e.path.relativeText root) =
      (paths.filter fun p => (raised? (analyze p)).isSome).map fun p => p.relativeText root := by
  rw [← List.filterMap_eq_filter, List.map_filterMap]
  apply List.filterMap_congr
  intro p hp
  cases houtcome : analyze p with
  | error e => simp [houtcome, raised?, Option.guard, hnamed p hp e houtcome]
  | ok _ => simp [houtcome, raised?, Option.guard]

theorem gather_ofFiles {files : List (Path × Nat)} (root : Path) (hfiles : files.Perm paths.zipIdx) :
    (gather root (files.map (outcomeAt analyze))).OfFiles analyze root paths := by
  have hresults := gather_results root (hfiles.map (outcomeAt analyze))
  have hskipped := gather_skipped analyze root hfiles
  have hperm := List.mergeSort_perm
    (paths.filterMap fun p => (raised? (analyze p)).map fun e => e.path.relativeText root)
    fun a b => decide (a ≤ b)
  refine ⟨hresults, ?_, ?_, ?_, exists_outcomes root hfiles, ?_, ?_⟩
  · rw [hskipped]
    exact List.pairwise_mergeSort' (· ≤ ·) _
  · rw [hskipped]
    exact hperm
  · intro hnamed
    rw [hskipped, ← filterMap_raised root hnamed]
    exact hperm
  · exact hresults.trans (gather_results root (List.Perm.refl _)).symm
  · exact hskipped.trans (gather_skipped analyze root (List.Perm.refl _)).symm

end Outcomes

/-! ## Errors that name their files -/

section Errors

variable {fs : FileSystem} {path : Path} {e : FileError}

theorem FileSystem.path_of_stat (h : fs.stat path = .error e) : e.path = path := by
  unfold FileSystem.stat at h
  split at h <;> cases h
  rfl

theorem FileSystem.path_of_readText (h : fs.readText path = .error e) : e.path = path := by
  unfold FileSystem.readText at h
  split at h
  next => cases h; rfl
  next =>
    split at h <;> cases h
    rfl

/-- A file that cannot be searched for duplicates is the one that the error names. -/
theorem path_of_analyzeSource {minLines : Nat} {root : Path}
    (h : analyzeSource fs minLines root path = .error e) : e.path = path := by
  unfold analyzeSource at h
  cases hstat : fs.stat path with
  | error fault =>
      rw [hstat] at h
      cases h
      exact FileSystem.path_of_stat hstat
  | ok info =>
      cases hread : fs.readText path with
      | error fault =>
          rw [hstat, hread] at h
          cases h
          exact FileSystem.path_of_readText hread
      | ok content =>
          simp only [hstat, hread, bind, Except.bind, pure, Except.pure] at h
          split at h <;> cases h

end Errors

/-- **What a pool gathers.** A pool with at least one worker runs until each file has begun, finished and
    been gathered, and no longer. What it has gathered then are the results in walk order and the files with
    errors in sorted order, with one outcome for each file, however the workers were scheduled. -/
theorem pool_run_gathers {α : Type} (analyze : Path → Except FileError (Option α)) (root : Path)
    (paths : List Path) {workers steps : Nat} {p : Pool} (hworkers : 1 ≤ workers)
    (hrun : Pool.Run workers steps (Pool.submitted paths) p) :
    steps ≤ 3 * paths.length ∧
      (steps < 3 * paths.length → ∃ next, Pool.Step workers p next) ∧
      (steps = 3 * paths.length →
        (gather root (p.gathered.map (outcomeAt analyze))).OfFiles analyze root paths) := by
  have hleft := hrun.left_eq
  rw [Pool.left_submitted] at hleft
  refine ⟨by omega, ?_, ?_⟩
  · intro hshort
    exact Pool.exists_step hworkers (by omega)
  · intro hsteps
    exact gather_ofFiles root (hrun.gathered_perm (by omega))

/-- A run may go on with the file that was begun last. -/
theorem Pool.Run.gather_busy {workers n : Nat} {p : Pool} {file : Path × Nat}
    {waiting busy gathered : List (Path × Nat)}
    (h : Pool.Run workers n p ⟨waiting, file :: busy, [], gathered⟩) :
    Pool.Run workers (n + 2) p ⟨waiting, busy, [], gathered ++ [file]⟩ := by
  have hfinish := @Pool.Step.finishes workers ⟨waiting, file :: busy, [], gathered⟩ file [] busy rfl
  have hgather := @Pool.Step.gathers workers ⟨waiting, busy, [file], gathered⟩ file [] [] rfl
  exact .tail (.tail h hfinish) hgather

/-- Two workers begin a file each, and the one with the second file is done first. -/
theorem pool_run_gathers_swapped :
    let a : Path := ⟨.root, ["a.py"]⟩
    let b : Path := ⟨.root, ["b.py"]⟩
    let analyze := analyzeSource (.withFile "a.py" .empty) 1 ⟨.root, []⟩
    let g := gather ⟨.root, []⟩ ([(b, 1), (a, 0)].map (outcomeAt analyze))
    Pool.Run 2 6 (Pool.submitted [a, b]) ⟨[], [], [], [(b, 1), (a, 0)]⟩ ∧
      g.OfFiles analyze ⟨.root, []⟩ [a, b] ∧
      g.skipped.Perm
        (([a, b].filter fun p => (raised? (analyze p)).isSome).map fun p => p.relativeText ⟨.root, []⟩) := by
  intro a b analyze g
  have hbegun : Pool.Run 2 2 (Pool.submitted [a, b]) ⟨[], [(b, 1), (a, 0)], [], []⟩ :=
    .tail (.tail .refl (.begins (by decide) rfl)) (.begins (by decide) rfl)
  have hrun : Pool.Run 2 6 (Pool.submitted [a, b]) ⟨[], [], [], [(b, 1), (a, 0)]⟩ :=
    hbegun.gather_busy.gather_busy
  have hfiles : g.OfFiles analyze ⟨.root, []⟩ [a, b] :=
    (pool_run_gathers analyze ⟨.root, []⟩ [a, b] (by decide) hrun).2.2 rfl
  exact ⟨hrun, hfiles, hfiles.skipped_files fun _ _ _ => path_of_analyzeSource⟩

end CodeCensus
