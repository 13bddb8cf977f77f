import CodeCensus.Proofs.BlockSpans
import CodeCensus.Proofs.MetricsTotals

/-!
# Code lines in blocks

Lines are counted by their kind one at a time, and blocks are built from runs of lines that are closed at a line
of another kind or at the end. Both go by the same kinds: every code line goes into the open run, and a run of
at least one line becomes a block when it ends. So at every moment the code lines counted so far are those of the
finished blocks and of the open run. A greater minimum changes nothing but which runs are kept, so the state
of a reading with it is that of the reading that keeps every run, thinned out.

## Contents
- `linesIn` — how many lines blocks have together;
- `BlockScan.held` — the lines that a reading has kept, with its step and run lemmas;
- `BlockScan.thin` — a state without the blocks that are too short, which goes with every step;
- `code_lines_fill_blocks` — the counts of a file against its blocks.
-/

namespace CodeCensus

/-- The number of lines that the blocks have together. -/
def linesIn (blocks : List CodeBlock) : Nat := (blocks.map CodeBlock.lineCount).sum

@[simp] theorem linesIn_cons (b : CodeBlock) (blocks : List CodeBlock) :
    linesIn (b :: blocks) = b.lineCount + linesIn blocks := by
  simp [linesIn]

theorem linesIn_reverse (blocks : List CodeBlock) : linesIn blocks.reverse = linesIn blocks := by
  unfold linesIn
  rw [List.map_reverse, List.sum_reverse]

theorem linesIn_filter_le (p : CodeBlock → Bool) (blocks : List CodeBlock) :
    linesIn (blocks.filter p) ≤ linesIn blocks := by
  induction blocks with
  | nil => exact Nat.le_refl _
  | cons b blocks ih =>
      by_cases hb : p b = true
      · rw [List.filter_cons_of_pos hb, linesIn_cons, linesIn_cons]
        omega
      · rw [List.filter_cons_of_neg hb, linesIn_cons]
        omega

@[simp] theorem CodeBlock.lineCount_ofLines (before last : Nat) (lines : List String) :
    (CodeBlock.ofLines before last lines).lineCount = lines.length := rfl

namespace BlockScan

/-! ## The lines that are kept -/

/-- The lines of the finished blocks and of the open run. -/
def held (s : BlockScan) : Nat := s.run.length + linesIn s.done

/-- A run of no line makes no block, and any other keeps its lines as one. -/
theorem held_close (s : BlockScan) : (s.close 1).held = s.held := by
  unfold close held
  split
  next hlong => rw [linesIn_cons, CodeBlock.lineCount_ofLines, List.length_reverse, List.length_nil, Nat.zero_add]
  next hshort =>
    have hnone : s.run.length = 0 := by omega
    rw [List.length_nil, hnone]

/-- One more line is kept where it is counted as code. -/
theorem held_step (profile : Profile) (s : BlockScan) (line : String) (counts : LineCounts) :
    (s.step profile 1 line).held + counts.code = s.held + (counts.add (lineKind profile line)).code := by
  unfold BlockScan.step lineKind
  dsimp only
  cases trimmedKind profile (Text.trim line) with
  | code =>
      simp only [held, extend, LineCounts.add, List.length_cons]
      omega
  | comment => exact congrArg (· + counts.code) (held_close s)
  | blank => exact congrArg (· + counts.code) (held_close s)

/-- **All lines**, from any state and any counts. -/
theorem held_foldl (profile : Profile) (lines : List String) (s : BlockScan) (counts : LineCounts) :
    (lines.foldl (BlockScan.step profile 1) s).held + counts.code =
      s.held + (lines.foldl (fun counts line => counts.add (lineKind profile line)) counts).code := by
  induction lines generalizing s counts with
  | nil => rfl
  | cons line rest ih =>
      have hstep := held_step profile s line counts
      have hrest := ih (s.step profile 1 line) (counts.add (lineKind profile line))
      rw [List.foldl_cons, List.foldl_cons]
      omega

/-! ## Thinned states -/

/-- The state without the blocks that are too short. -/
def thin (minLines : Nat) (s : BlockScan) : BlockScan :=
  { s with done := s.done.filter fun b => minLines ≤ b.lineCount }

variable {minLines : Nat}

/-- Whether a run that ends is dropped at once or thinned out afterwards is all the same. -/
theorem close_thin (hmin : 1 ≤ minLines) (s : BlockScan) :
    (s.thin minLines).close minLines = (s.close 1).thin minLines := by
  unfold close thin
  by_cases hlong : minLines ≤ s.run.length
  · have hone : 1 ≤ s.run.length := Nat.le_trans hmin hlong
    simp [hlong, hone]
  · by_cases hone : 1 ≤ s.run.length
    · simp [hlong, hone]
    · simp [hlong, hone]

theorem step_thin (hmin : 1 ≤ minLines) (profile : Profile) (s : BlockScan) (line : String) :
    (s.thin minLines).step profile minLines line = (s.step profile 1 line).thin minLines := by
  unfold BlockScan.step
  dsimp only
  cases trimmedKind profile (Text.trim line) with
  | code => rfl
  | comment =>
      dsimp only
      rw [close_thin hmin]
      rfl
  | blank =>
      dsimp only
      rw [close_thin hmin]
      rfl

/-- **All lines.** -/
theorem foldl_thin (hmin : 1 ≤ minLines) (profile : Profile) (lines : List String) (s : BlockScan) :
    lines.foldl (BlockScan.step profile minLines) (s.thin minLines) =
      (lines.foldl (BlockScan.step profile 1) s).thin minLines := by
  induction lines generalizing s with
  | nil => rfl
  | cons line rest ih => rw [List.foldl_cons, List.foldl_cons, step_thin hmin, ih]

end BlockScan

/-! ## The blocks of a file -/

/-- The code lines are those of the blocks. -/
theorem code_countLines (profile : Profile) (lines : List String) :
    (countLines profile lines).code = linesIn (extractBlocks profile 1 lines) := by
  have hheld := BlockScan.held_foldl profile lines ⟨0, 0, [], []⟩ ⟨0, 0, 0⟩
  rw [← BlockScan.held_close] at hheld
  unfold extractBlocks countLines
  rw [linesIn_reverse]
  simp only [BlockScan.held, BlockScan.run_close, linesIn, List.length_nil, List.map_nil, List.sum_nil, Nat.zero_add,
    Nat.add_zero] at hheld ⊢
  exact hheld.symm

/-- A minimum keeps the blocks that are long enough. -/
theorem extractBlocks_eq_filter {minLines : Nat} (hmin : 1 ≤ minLines) (profile : Profile) (lines : List String) :
    extractBlocks profile minLines lines =
      (extractBlocks profile 1 lines).filter fun b => minLines ≤ b.lineCount := by
  have hstart : (⟨0, 0, [], []⟩ : BlockScan) = BlockScan.thin minLines ⟨0, 0, [], []⟩ := rfl
  have hfold := BlockScan.foldl_thin hmin profile lines ⟨0, 0, [], []⟩
  unfold extractBlocks
  conv => lhs; rw [hstart, hfold, BlockScan.close_thin hmin]
  rw [List.filter_reverse]
  rfl

/-- **Counting lines and extracting blocks agree on what a code line is.** Every line is counted once, the code lines
    are those of all blocks, and a minimum keeps the blocks that are long enough, so these have no more lines than
    there are code lines. -/
theorem code_lines_fill_blocks (profile : Profile) (lines : List String) :
    (countLines profile lines).code + (countLines profile lines).comment + (countLines profile lines).blank =
        lines.length ∧
      (countLines profile lines).code = ((extractBlocks profile 1 lines).map CodeBlock.lineCount).sum ∧
      ∀ minLines, 1 ≤ minLines →
        extractBlocks profile minLines lines =
            (extractBlocks profile 1 lines).filter (fun b => minLines ≤ b.lineCount) ∧
          ((extractBlocks profile minLines lines).map CodeBlock.lineCount).sum ≤ (countLines profile lines).code := by
  refine ⟨countLines_total profile lines, code_countLines profile lines, ?_⟩
  intro minLines hmin
  have hfilter := extractBlocks_eq_filter hmin profile lines
  refine ⟨hfilter, ?_⟩
  rw [hfilter, code_countLines]
  exact linesIn_filter_le _ _

/-- A run of one line and a run of two, a comment and blank lines, with a minimum of two. -/
theorem code_lines_fill_blocks_short_run :
    let profile : Profile := { commentMarks := ["#"] }
    let lines := ["x", "", "# c", " a", "b ", " "]
    1 ≤ 2 ∧ (countLines profile lines).code = 3 ∧ (extractBlocks profile 1 lines).length = 2 ∧
      (extractBlocks profile 2 lines).length = 1 ∧
      ((extractBlocks profile 2 lines).map CodeBlock.lineCount).sum ≤ 3 := by
  intro profile lines
  have hmin : 1 ≤ 2 := by decide
  have hcode : (countLines profile lines).code = 3 := by decide
  obtain ⟨_, _, hkept⟩ := code_lines_fill_blocks profile lines
  obtain ⟨hfilter, hle⟩ := hkept 2 hmin
  refine ⟨hmin, hcode, by decide, ?_, hcode ▸ hle⟩
  rw [hfilter]
  decide

end CodeCensus
