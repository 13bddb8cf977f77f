import CodeCensus.Source.Block
import Mathlib.Data.List.Basic

/-!
# Spans of blocks

The blocks of a file are read off its lines from first to last, and a line is part of one run at most. So
the blocks lie one after another, and each has as many lines as its span says. The minimum has to be at
least one line, or every line that is no code would end an empty run that counts as a block.

## Contents
- `BlockScan.Spans` — what holds of the blocks while lines are read, with its step and run lemmas;
- `extractBlocks_spans` — the spans of the blocks of a file;
- `extractBlocks_long` — no block is shorter than the minimum.
-/

namespace CodeCensus

/-- The block stands in the lines up to number `last`, and its span is as long as its text. -/
structure CodeBlock.SpansUpTo (last : Nat) (b : CodeBlock) : Prop where
  nonempty : b.lines ≠ []
  length_eq : b.startLine + b.lineCount = b.endLine + 1
  starts : 1 ≤ b.startLine
  ends : b.endLine ≤ last

theorem CodeBlock.SpansUpTo.mono {b : CodeBlock} {m n : Nat} (h : b.SpansUpTo m) (hle : m ≤ n) :
    b.SpansUpTo n :=
  ⟨h.nonempty, h.length_eq, h.starts, Nat.le_trans h.ends hle⟩

namespace BlockScan

/-- The run is the latest lines that were read, and the finished blocks, latest first, lie one after another
    in the lines before it. -/
structure Spans (s : BlockScan) : Prop where
  run_ends : s.run ≠ [] → s.before + s.run.length = s.read
  done_spans : ∀ b ∈ s.done, b.SpansUpTo (s.read - s.run.length)
  done_ordered : s.done.Pairwise fun later earlier => earlier.endLine < later.startLine

variable {s : BlockScan} {minLines : Nat}

theorem spans_start : Spans ⟨0, 0, [], []⟩ where
  run_ends h := absurd rfl h
  done_spans _ h := absurd h List.not_mem_nil
  done_ordered := List.Pairwise.nil

/-- A run that ends may become a block; it then comes after all finished ones. -/
theorem Spans.close (h : s.Spans) (hmin : 1 ≤ minLines) : (s.close minLines).Spans := by
  unfold BlockScan.close
  have hdone : ∀ b ∈ s.done, b.SpansUpTo s.read := fun b hb => (h.done_spans b hb).mono (Nat.sub_le _ _)
  split
  next hlong =>
    have hne : s.run ≠ [] := by
      intro hnil
      rw [hnil, List.length_nil] at hlong
      omega
    have hends := h.run_ends hne
    refine ⟨fun hnil => absurd rfl hnil, ?_, ?_⟩
    · refine List.forall_mem_cons.mpr ⟨?_, hdone⟩
      refine ⟨by simpa [CodeBlock.ofLines] using hne, ?_, Nat.succ_le_succ (Nat.zero_le _), Nat.le_refl _⟩
      simp only [CodeBlock.ofLines, CodeBlock.lineCount, List.length_reverse]
      omega
    · refine List.pairwise_cons.mpr ⟨?_, h.done_ordered⟩
      intro b hb
      have hb := (h.done_spans b hb).ends
      simp only [CodeBlock.ofLines]
      omega
  next => exact ⟨fun hnil => absurd rfl hnil, hdone, h.done_ordered⟩

theorem Spans.extend (h : s.Spans) (trimmed : String) : (s.extend trimmed).Spans := by
  unfold BlockScan.extend
  refine ⟨?_, ?_, h.done_ordered⟩
  · intro _
    cases hrun : s.run with
    | nil => simp
    | cons line rest =>
        have hends := h.run_ends (by simp [hrun])
        simp only [hrun, List.length_cons, List.isEmpty_cons, Bool.false_eq_true, if_false] at hends ⊢
        omega
  · intro b hb
    have hlength : s.read + 1 - (s.run.length + 1) = s.read - s.run.length := by omega
    simpa only [List.length_cons, hlength] using h.done_spans b hb

theorem run_close (minLines : Nat) (s : BlockScan) : (s.close minLines).run = [] := by
  unfold BlockScan.close
  split <;> rfl

theorem read_close (minLines : Nat) (s : BlockScan) : (s.close minLines).read = s.read := by
  unfold BlockScan.close
  split <;> rfl

theorem Spans.step (h : s.Spans) (hmin : 1 ≤ minLines) (profile : Profile) (line : String) :
    (s.step profile minLines line).Spans := by
  unfold BlockScan.step
  have hclosed := h.close hmin
  dsimp only
  split
  next => exact h.extend _
  next =>
    refine ⟨fun hne => absurd (run_close minLines s) hne, ?_, hclosed.done_ordered⟩
    intro b hb
    refine (hclosed.done_spans b hb).mono ?_
    simp only [run_close, read_close, List.length_nil, Nat.sub_zero]
    omega

theorem read_foldl (profile : Profile) (minLines : Nat) (lines : List String) (s : BlockScan) :
    (lines.foldl (BlockScan.step profile minLines) s).read = s.read + lines.length := by
  induction lines generalizing s with
  | nil => rfl
  | cons line rest ih =>
      have hstep : (s.step profile minLines line).read = s.read + 1 := by
        unfold BlockScan.step
        dsimp only
        split <;> rfl
      rw [List.foldl_cons, ih, hstep, List.length_cons]
      omega

theorem Spans.foldl (h : s.Spans) (hmin : 1 ≤ minLines) (profile : Profile) (lines : List String) :
    (lines.foldl (BlockScan.step profile minLines) s).Spans := by
  induction lines generalizing s with
  | nil => exact h
  | cons line rest ih => exact ih (h.step hmin profile line)

/-- A run that is too short is dropped when it ends. -/
theorem long_close (h : ∀ b ∈ s.done, minLines ≤ b.lineCount) :
    ∀ b ∈ (s.close minLines).done, minLines ≤ b.lineCount := by
  unfold BlockScan.close
  split
  next hlong =>
    refine List.forall_mem_cons.mpr ⟨?_, h⟩
    simpa [CodeBlock.ofLines, CodeBlock.lineCount] using hlong
  next => exact h

theorem long_foldl (h : ∀ b ∈ s.done, minLines ≤ b.lineCount) (profile : Profile)
    (lines : List String) :
    ∀ b ∈ (lines.foldl (BlockScan.step profile minLines) s).done, minLines ≤ b.lineCount := by
  induction lines generalizing s with
  | nil => exact h
  | cons line rest ih =>
      apply ih
      unfold BlockScan.step
      dsimp only
      split
      next => exact h
      next => exact long_close h

end BlockScan

/-- No block of a file is shorter than the minimum. -/
theorem extractBlocks_long (profile : Profile) (minLines : Nat) (lines : List String) :
    ∀ b ∈ extractBlocks profile minLines lines, minLines ≤ b.lineCount := by
  intro b hb
  have hstart : ∀ b ∈ (BlockScan.mk 0 0 [] []).done, minLines ≤ b.lineCount := by simp
  exact BlockScan.long_close (BlockScan.long_foldl hstart profile lines) b (List.mem_reverse.mp hb)

/-- **The blocks of a file lie one after another**, each in the lines that its span counts. -/
theorem extractBlocks_spans {minLines : Nat} (hmin : 1 ≤ minLines) (profile : Profile)
    (lines : List String) :
    (extractBlocks profile minLines lines).Pairwise (fun a b => a.endLine < b.startLine) ∧
      ∀ b ∈ extractBlocks profile minLines lines, b.SpansUpTo lines.length := by
  have hspans := (BlockScan.spans_start.foldl hmin profile lines).close hmin
  unfold extractBlocks
  refine ⟨List.pairwise_reverse.mpr hspans.done_ordered, ?_⟩
  intro b hb
  have hb := hspans.done_spans b (List.mem_reverse.mp hb)
  simpa only [BlockScan.run_close, BlockScan.read_close, BlockScan.read_foldl, List.length_nil,
    Nat.sub_zero, Nat.zero_add] using hb

/-- No two blocks of a file start at the same line. -/
theorem extractBlocks_startLine {minLines : Nat} (hmin : 1 ≤ minLines) (profile : Profile)
    (lines : List String) :
    (extractBlocks profile minLines lines).Pairwise fun a b => a.startLine < b.startLine := by
  obtain ⟨hordered, hspans⟩ := extractBlocks_spans hmin profile lines
  refine hordered.imp_of_mem ?_
  intro a b ha _ hlt
  have hpos : 0 < a.lineCount := List.length_pos_iff.mpr (hspans a ha).nonempty
  have hlength := (hspans a ha).length_eq
  omega

end CodeCensus
