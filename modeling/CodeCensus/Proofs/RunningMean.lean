import CodeCensus.Proofs.MetricsTotals
import Mathlib.Algebra.Order.BigOperators.Group.List
import Mathlib.Algebra.Order.Field.Rat

/-!
# The mean complexity of a language

The mean complexity of a language is kept as the files come: the last mean is multiplied back by the number of
files before, the new complexity is added, and the result is divided by the new number of files. The sum itself
is never kept. The update is one formula for any arithmetic. With doubles it is what the totals of a language
hold. With rationals it is the mean: the mean times the number of files gains exactly the new complexity with
each file, whatever mean there was before the first, which is multiplied by zero.

## Contents
- `meanFrom` — the running mean after a sequence of files, in any arithmetic;
- `LanguageTotals.averageComplexity_foldl` — the totals of a language hold it in doubles;
- `runningMean_mul`, `meanFrom_mul` — what one file and what a sequence of files add to the mean times the count;
- `KeepsMean`, `running_mean_exact` — the exact mean beside the totals of a language.
-/

namespace CodeCensus

/-! ## The mean after a sequence of files -/

/-- The running mean after some files, from the mean of a number of files before them. -/
def meanFrom {α : Type} [Add α] [Mul α] [Div α] (ofInt : Int → α) : Nat → α → List FileMetrics → α
  | _, mean, [] => mean
  | count, mean, m :: files =>
      meanFrom ofInt (count + 1) (runningMean ofInt mean (count + 1) m.complexity) files

namespace LanguageTotals

/-- The totals of a language hold the running mean, computed with doubles. -/
theorem averageComplexity_foldl (t : LanguageTotals) (files : List FileMetrics) :
    (files.foldl add t).averageComplexity = meanFrom Double.ofInt t.files t.averageComplexity files := by
  induction files generalizing t with
  | nil => rfl
  | cons m files ih => exact ih (t.add m)

end LanguageTotals

/-! ## Exact arithmetic -/

/-- The running mean, computed with rationals. -/
def exactMean (start : ℚ) (files : List FileMetrics) : ℚ := meanFrom Int.cast 0 start files

/-- The complexities of all files together. -/
def totalComplexity (files : List FileMetrics) : ℤ := (files.map FileMetrics.complexity).sum

/-- **One more file** adds its complexity to the mean times the number of files. -/
theorem runningMean_mul (mean : ℚ) (count : ℕ) (value : ℤ) :
    runningMean Int.cast mean (count + 1) value * (count + 1 : ℕ) = mean * count + value := by
  have hcount : ((count + 1 : ℕ) : ℚ) ≠ 0 := Nat.cast_ne_zero.mpr (Nat.succ_ne_zero count)
  have hbefore : (((count + 1 : ℕ) : ℤ) - 1 : ℤ) = count := by omega
  unfold runningMean
  rw [hbefore, Int.cast_natCast, Int.cast_natCast, div_mul_cancel₀ _ hcount]

/-- **A sequence of files** adds all its complexities. By induction on the sequence, for any mean and number of
    files before it. -/
theorem meanFrom_mul (count : ℕ) (mean : ℚ) (files : List FileMetrics) :
    meanFrom Int.cast count mean files * (count + files.length : ℕ) =
      mean * count + totalComplexity files := by
  induction files generalizing count mean with
  | nil => simp [meanFrom, totalComplexity]
  | cons m files ih =>
      have hlength : count + (m :: files).length = count + 1 + files.length := by
        rw [List.length_cons]
        omega
      have htotal : totalComplexity (m :: files) = m.complexity + totalComplexity files := List.sum_cons
      have hrest := ih (count + 1) (runningMean Int.cast mean (count + 1) m.complexity)
      rw [runningMean_mul] at hrest
      rw [hlength, htotal, Int.cast_add, ← add_assoc]
      exact hrest

theorem exactMean_mul (start : ℚ) (files : List FileMetrics) :
    exactMean start files * files.length = totalComplexity files := by
  have h := meanFrom_mul 0 start files
  rwa [Nat.zero_add, Nat.cast_zero, mul_zero, zero_add] at h

theorem exactMean_eq_div (start : ℚ) {files : List FileMetrics} (hfiles : files ≠ []) :
    exactMean start files = totalComplexity files / files.length := by
  have hlength : (files.length : ℚ) ≠ 0 := Nat.cast_ne_zero.mpr (List.length_pos_iff.mpr hfiles).ne'
  rw [eq_div_iff hlength]
  exact exactMean_mul start files

/-- The mean keeps within bounds that all complexities keep. -/
theorem exactMean_within (start : ℚ) {files : List FileMetrics} (hfiles : files ≠ []) {low high : ℤ}
    (hbounds : ∀ m ∈ files, low ≤ m.complexity ∧ m.complexity ≤ high) :
    (low : ℚ) ≤ exactMean start files ∧ exactMean start files ≤ high := by
  have hlength : (0 : ℚ) < files.length := Nat.cast_pos.mpr (List.length_pos_iff.mpr hfiles)
  have hlow := List.card_nsmul_le_sum (files.map FileMetrics.complexity) low
    (List.forall_mem_map.mpr fun m hm => (hbounds m hm).1)
  have hhigh := List.sum_le_card_nsmul (files.map FileMetrics.complexity) high
    (List.forall_mem_map.mpr fun m hm => (hbounds m hm).2)
  rw [List.length_map, nsmul_eq_mul, mul_comm] at hlow hhigh
  rw [exactMean_eq_div start hfiles, le_div_iff₀ hlength, div_le_iff₀ hlength]
  exact ⟨mod_cast hlow, mod_cast hhigh⟩

/-- The order of the files is nothing to the mean. -/
theorem exactMean_perm (start : ℚ) {files files' : List FileMetrics} (h : files.Perm files') :
    exactMean start files = exactMean start files' := by
  cases files with
  | nil => rw [h.symm.eq_nil]
  | cons m rest =>
      have hfiles : m :: rest ≠ [] := List.cons_ne_nil m rest
      have hfiles' : files' ≠ [] := fun hnil => hfiles (hnil ▸ h).eq_nil
      have htotal : totalComplexity (m :: rest) = totalComplexity files' :=
        (h.map FileMetrics.complexity).sum_eq
      rw [exactMean_eq_div start hfiles, exactMean_eq_div start hfiles', htotal, h.length_eq]

/-! ## Totals of a language -/

/-- The totals hold the running mean of the files in doubles, and in rationals it is their mean, from any start. -/
structure KeepsMean (start : ℚ) (files : List FileMetrics) (t : LanguageTotals) : Prop where
  held : t.averageComplexity = meanFrom Double.ofInt 0 Double.zero files
  balance : exactMean start files * t.files = totalComplexity files
  mean : files ≠ [] → exactMean start files = totalComplexity files / files.length
  between : files ≠ [] → ∃ least most : ℤ, (files.map FileMetrics.complexity).min? = some least ∧
    (files.map FileMetrics.complexity).max? = some most ∧
    (least : ℚ) ≤ exactMean start files ∧ exactMean start files ≤ most
  unordered : ∀ files', files.Perm files' → exactMean start files' = exactMean start files

theorem keepsMean_foldl (start : ℚ) (files : List FileMetrics) :
    KeepsMean start files (files.foldl LanguageTotals.add .zero) where
  held := LanguageTotals.averageComplexity_foldl .zero files
  balance := by
    rw [(LanguageTotals.sumsOver_foldl files).files_eq]
    exact exactMean_mul start files
  mean := exactMean_eq_div start
  between := by
    intro hfiles
    have hsome : files.map FileMetrics.complexity ≠ [] := fun hnil => hfiles (List.map_eq_nil_iff.mp hnil)
    obtain ⟨least, hleast⟩ := Option.isSome_iff_exists.mp (List.isSome_min?_iff.mpr hsome)
    obtain ⟨most, hmost⟩ := Option.isSome_iff_exists.mp (List.isSome_max?_iff.mpr hsome)
    have hbounds : ∀ m ∈ files, least ≤ m.complexity ∧ m.complexity ≤ most := by
      intro m hm
      have hmem : m.complexity ∈ files.map FileMetrics.complexity := List.mem_map_of_mem hm
      exact ⟨(List.min?_eq_some_iff.mp hleast).2 _ hmem, (List.max?_eq_some_iff.mp hmost).2 _ hmem⟩
    exact ⟨least, most, hleast, hmost, exactMean_within start hfiles hbounds⟩
  unordered := fun _ h => (exactMean_perm start h).symm

/-- **The running mean is the mean.** After each file that is added to the totals of a language, the mean in exact
    arithmetic times the number of files is the sum of the complexities so far; it is their arithmetic mean, lies
    between the smallest and the largest, and is the same for the files in any other order. So it is for each
    language of a metrics run, with the files of the language. -/
theorem running_mean_exact (start : ℚ) (thresholds : Thresholds) (files : List FileMetrics) :
    (∀ seen, seen <+: files → KeepsMean start seen (seen.foldl LanguageTotals.add .zero)) ∧
      ∀ e ∈ (Aggregate.ofFiles thresholds files).languages.entries,
        KeepsMean start (files.filter fun m => m.language = e.1) e.2 := by
  constructor
  · intro seen _
    exact keepsMean_foldl start seen
  · intro e he
    rw [(Aggregate.ofFiles_holds thresholds files).languages_eq, collect_entries] at he
    obtain ⟨language, _, rfl⟩ := List.mem_map.mp he
    exact keepsMean_foldl start _

/-- Three files of complexity 1, 2 and 4, from a mean of 5 before the first. -/
theorem running_mean_exact_three :
    let file (complexity : ℤ) : FileMetrics :=
      ⟨⟨.root, ["f.py"]⟩, "f.py", .python, ".py", 0, 0, 0, 0, 0, 0, 0, complexity, .zero⟩
    let files := [file 1, file 2, file 4]
    files ≠ [] ∧ files <+: files ∧ files.Perm files.reverse ∧ exactMean 5 files = 7 / 3 ∧
      exactMean 5 files.reverse = 7 / 3 ∧
      exactMean 5 files * (files.foldl LanguageTotals.add .zero).files = 7 := by
  intro file files
  have hfiles : files ≠ [] := List.cons_ne_nil _ _
  have hperm : files.Perm files.reverse := (List.reverse_perm files).symm
  have hkeeps := (running_mean_exact 5 .defaults files).1 files List.prefix_rfl
  have hmean : exactMean 5 files = 7 / 3 := hkeeps.mean hfiles
  exact ⟨hfiles, List.prefix_rfl, hperm, hmean, (hkeeps.unordered _ hperm).trans hmean, hkeeps.balance⟩

end CodeCensus
