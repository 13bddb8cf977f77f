import CodeCensus.Proofs.BlockSpans
import Mathlib.Data.List.Induction
import Mathlib.Data.Nat.Init

/-!
# Runs of code lines

A code line has a trimmed text that is neither empty nor a comment. A run of code lines is maximal when no
line of code comes just before it or just after it, be it that the file ends there. Reading a file line by
line finds all of these runs. At every moment some of them have ended, and at most one may still grow: the one
that ends with the latest line. The lines so far are enough to tell which runs have ended, so the state of the
reading is described by the lines alone.

## Contents
- `CodeLineAt`, `IsCodeRun` — code lines and their maximal runs, by line numbers;
- `BlockScan.Follows` — what a state has found in the lines so far, with its step and run lemmas;
- `mem_extractBlocks` — the blocks are the runs that are long enough;
- `blocks_are_code_runs` — the same with every part of a block spelled out.
-/

namespace CodeCensus

/-! ## Code lines and their runs -/

/-- The trimmed text of the line is neither empty nor a comment. -/
def IsCodeLine (profile : Profile) (line : String) : Prop :=
  Text.trim line ≠ "" ∧ profile.isComment (Text.trim line) = false

/-- The line with the given number is a code line. Lines are numbered from one; there is none with another
    number. -/
def CodeLineAt (profile : Profile) (lines : List String) (n : Nat) : Prop :=
  1 ≤ n ∧ ∃ line, lines[n - 1]? = some line ∧ IsCodeLine profile line

/-- The lines with the numbers `first` to `last` are code lines, and those just before and just after are not. -/
structure IsCodeRun (profile : Profile) (lines : List String) (first last : Nat) : Prop where
  starts : 1 ≤ first
  nonempty : first ≤ last
  ends : last ≤ lines.length
  code : ∀ n, first ≤ n → n ≤ last → CodeLineAt profile lines n
  before : ¬CodeLineAt profile lines (first - 1)
  after : ¬CodeLineAt profile lines (last + 1)

/-- The block of the lines with the numbers `first` to `last`. -/
def CodeBlock.ofSpan (lines : List String) (first last : Nat) : CodeBlock :=
  .ofLines (first - 1) last (((lines.drop (first - 1)).take (last + 1 - first)).map Text.trim)

section CodeLines

variable {profile : Profile} {lines : List String} {line : String} {n first last : Nat}

instance : Decidable (IsCodeLine profile line) := inferInstanceAs (Decidable (_ ∧ _))

instance : Decidable (CodeLineAt profile lines n) :=
  decidable_of_iff (1 ≤ n ∧ lines[n - 1]?.any (fun line => decide (IsCodeLine profile line)) = true) (by
    simp [CodeLineAt, Option.any_eq_true])

theorem trimmedKind_eq_code : trimmedKind profile (Text.trim line) = .code ↔ IsCodeLine profile line := by
  unfold trimmedKind IsCodeLine
  by_cases hempty : Text.trim line = ""
  · simp [hempty]
  · by_cases hcomment : profile.isComment (Text.trim line) = true
    · simp [hempty, hcomment]
    · simp [hempty, hcomment]

theorem CodeLineAt.le_length (h : CodeLineAt profile lines n) : n ≤ lines.length := by
  obtain ⟨hpos, line, hline, _⟩ := h
  have hlt := (List.getElem?_eq_some_iff.mp hline).1
  omega

/-- One more line leaves the lines before it as they are. -/
theorem codeLineAt_concat :
    CodeLineAt profile (lines ++ [line]) n ↔
      CodeLineAt profile lines n ∨ n = lines.length + 1 ∧ IsCodeLine profile line := by
  rcases Nat.lt_trichotomy n (lines.length + 1) with hlt | heq | hgt
  · have hne : n ≠ lines.length + 1 := by omega
    unfold CodeLineAt
    by_cases hpos : 1 ≤ n
    · rw [List.getElem?_append_left (by omega)]
      simp [hne]
    · simp [hpos, hne]
  · subst heq
    simp [CodeLineAt]
  · have hnone : ¬CodeLineAt profile lines n := fun h => by
      have := h.le_length
      omega
    have hnone' : ¬CodeLineAt profile (lines ++ [line]) n := fun h => by
      have := h.le_length
      rw [List.length_append, List.length_singleton] at this
      omega
    have hne : n ≠ lines.length + 1 := by omega
    simp [hnone, hnone', hne]

theorem codeLineAt_concat_of_le (hle : n ≤ lines.length) :
    CodeLineAt profile (lines ++ [line]) n ↔ CodeLineAt profile lines n := by
  have hne : n ≠ lines.length + 1 := by omega
  simp [codeLineAt_concat, hne]

/-- Whether lines make up a run is settled by the lines up to the one after it. -/
theorem IsCodeRun.congr {lines' : List String}
    (hsame : ∀ n ≤ last + 1, CodeLineAt profile lines n ↔ CodeLineAt profile lines' n)
    (h : IsCodeRun profile lines first last) : IsCodeRun profile lines' first last := by
  have hnonempty := h.nonempty
  have hcode : ∀ n, first ≤ n → n ≤ last → CodeLineAt profile lines' n := fun n hfirst hlast =>
    (hsame n (by omega)).mp (h.code n hfirst hlast)
  refine ⟨h.starts, hnonempty, (hcode last hnonempty (Nat.le_refl _)).le_length, hcode, ?_, ?_⟩
  · exact fun hbefore => h.before ((hsame _ (by omega)).mpr hbefore)
  · exact fun hafter => h.after ((hsame _ (Nat.le_refl _)).mpr hafter)

/-- One more line changes no run that has ended before. -/
theorem isCodeRun_concat_of_lt (hlt : last < lines.length) :
    IsCodeRun profile (lines ++ [line]) first last ↔ IsCodeRun profile lines first last :=
  ⟨.congr fun _ hn => codeLineAt_concat_of_le (by omega),
    .congr fun _ hn => (codeLineAt_concat_of_le (by omega)).symm⟩

/-- A line that is no code changes no run at all. -/
theorem isCodeRun_concat_of_not_code (hline : ¬IsCodeLine profile line) :
    IsCodeRun profile (lines ++ [line]) first last ↔ IsCodeRun profile lines first last := by
  have hsame : ∀ n, CodeLineAt profile (lines ++ [line]) n ↔ CodeLineAt profile lines n := by
    intro n
    simp [codeLineAt_concat, hline]
  exact ⟨.congr fun n _ => hsame n, .congr fun n _ => (hsame n).symm⟩

/-- A code line is part of the run before it, so no run ends in front of it. -/
theorem not_isCodeRun_concat_of_code (hline : IsCodeLine profile line) :
    ¬IsCodeRun profile (lines ++ [line]) first lines.length := fun h =>
  h.after (codeLineAt_concat.mpr (.inr ⟨rfl, hline⟩))

theorem IsCodeRun.ofSpan_concat (h : IsCodeRun profile lines first last) :
    CodeBlock.ofSpan (lines ++ [line]) first last = .ofSpan lines first last := by
  have hstarts := h.starts
  have hnonempty := h.nonempty
  have hends := h.ends
  unfold CodeBlock.ofSpan
  rw [List.drop_append_of_le_length (by omega), List.take_append_of_le_length]
  rw [List.length_drop]
  omega

end CodeLines

/-! ## Reading the lines -/

namespace BlockScan

/-- The state after the given lines were read. The run is at their end and as long as it can be, and the blocks
    are those of the runs before it that are long enough. -/
structure Follows (profile : Profile) (minLines : Nat) (lines : List String) (s : BlockScan) : Prop where
  read_eq : s.read = lines.length
  run_le : s.run.length ≤ lines.length
  run_eq : s.run.reverse = (lines.drop (lines.length - s.run.length)).map Text.trim
  run_code : ∀ n, lines.length - s.run.length < n → n ≤ lines.length → CodeLineAt profile lines n
  run_before : ¬CodeLineAt profile lines (lines.length - s.run.length)
  before_eq : s.run ≠ [] → s.before = lines.length - s.run.length
  done_iff : ∀ b, b ∈ s.done ↔ ∃ first last, IsCodeRun profile lines first last ∧ last < lines.length ∧
    minLines ≤ last + 1 - first ∧ b = .ofSpan lines first last

variable {profile : Profile} {minLines : Nat} {lines : List String} {s : BlockScan}

theorem follows_start : Follows profile minLines [] ⟨0, 0, [], []⟩ where
  read_eq := rfl
  run_le := Nat.le_refl _
  run_eq := rfl
  run_code n hpos hle := absurd hpos (by simpa using hle)
  run_before h := absurd h.1 (by simp)
  before_eq h := absurd rfl h
  done_iff b := by simp

/-- The run that may still grow is the one that ends with the latest line. -/
theorem Follows.isCodeRun_iff (h : s.Follows profile minLines lines) {first : Nat} :
    IsCodeRun profile lines first lines.length ↔
      s.run ≠ [] ∧ first = lines.length - s.run.length + 1 := by
  have hrun_le := h.run_le
  constructor
  · intro hrun
    -- the last line is code, and the run goes back to the first line that has no code line before it
    have hne : s.run ≠ [] := by
      intro hnil
      have hlast := hrun.code lines.length hrun.nonempty (Nat.le_refl _)
      have hbefore := h.run_before
      rw [hnil, List.length_nil, Nat.sub_zero] at hbefore
      exact hbefore hlast
    refine ⟨hne, ?_⟩
    have hpos := List.length_pos_iff.mpr hne
    have hstarts := hrun.starts
    rcases Nat.lt_trichotomy first (lines.length - s.run.length + 1) with hlt | heq | hgt
    · exact absurd (hrun.code _ (by omega) (by omega)) h.run_before
    · exact heq
    · exact absurd (h.run_code (first - 1) (by omega) (by have := hrun.nonempty; omega)) hrun.before
  · rintro ⟨hne, rfl⟩
    have hpos := List.length_pos_iff.mpr hne
    refine ⟨by omega, by omega, Nat.le_refl _, fun n hfirst hlast => h.run_code n (by omega) hlast, ?_, ?_⟩
    · rw [Nat.add_sub_cancel]
      exact h.run_before
    · intro hafter
      have := hafter.le_length
      omega

/-- The block that a run becomes when it ends. -/
theorem Follows.ofLines_eq (h : s.Follows profile minLines lines) (hne : s.run ≠ []) :
    CodeBlock.ofLines s.before s.read s.run.reverse =
      .ofSpan lines (lines.length - s.run.length + 1) lines.length := by
  have hrun_le := h.run_le
  unfold CodeBlock.ofSpan
  have hcount : lines.length + 1 - (lines.length - s.run.length + 1) = s.run.length := by omega
  have hall : (lines.drop (lines.length - s.run.length)).take s.run.length =
      lines.drop (lines.length - s.run.length) := by
    apply List.take_of_length_le
    rw [List.length_drop]
    omega
  rw [Nat.add_sub_cancel, hcount, hall, ← h.run_eq, h.before_eq hne, h.read_eq]

/-- **When the run is ended, every run that is long enough has its block.** -/
theorem Follows.mem_close (h : s.Follows profile minLines lines) (hmin : 1 ≤ minLines) {b : CodeBlock} :
    b ∈ (s.close minLines).done ↔ ∃ first last, IsCodeRun profile lines first last ∧
      minLines ≤ last + 1 - first ∧ b = .ofSpan lines first last := by
  have hrun_le := h.run_le
  -- a run has ended before, or it is the one at the end
  have hsplit : (∃ first last, IsCodeRun profile lines first last ∧ minLines ≤ last + 1 - first ∧
      b = .ofSpan lines first last) ↔
      minLines ≤ s.run.length ∧ b = .ofLines s.before s.read s.run.reverse ∨ b ∈ s.done := by
    rw [h.done_iff]
    constructor
    · rintro ⟨first, last, hrun, hlong, rfl⟩
      rcases Nat.lt_or_eq_of_le hrun.ends with hlt | rfl
      · exact .inr ⟨first, last, hrun, hlt, hlong, rfl⟩
      · obtain ⟨hne, rfl⟩ := h.isCodeRun_iff.mp hrun
        exact .inl ⟨by omega, (h.ofLines_eq hne).symm⟩
    · rintro (⟨hlong, rfl⟩ | ⟨first, last, hrun, _, hlong, rfl⟩)
      · have hne : s.run ≠ [] := List.length_pos_iff.mp (by omega)
        exact ⟨_, _, h.isCodeRun_iff.mpr ⟨hne, rfl⟩, by omega, h.ofLines_eq hne⟩
      · exact ⟨first, last, hrun, hlong, rfl⟩
  rw [hsplit]
  unfold BlockScan.close
  split
  next hlong => simp [hlong]
  next hshort => simp [hshort]

theorem Follows.extend (h : s.Follows profile minLines lines) {line : String}
    (hline : IsCodeLine profile line) :
    (s.extend (Text.trim line)).Follows profile minLines (lines ++ [line]) := by
  have hrun_le := h.run_le
  have hlength : (lines ++ [line]).length = lines.length + 1 := by simp
  have hrun : (s.extend (Text.trim line)).run = Text.trim line :: s.run := rfl
  have hback : lines.length + 1 - (s.run.length + 1) = lines.length - s.run.length := by omega
  constructor
  case read_eq =>
    show s.read + 1 = _
    rw [h.read_eq, hlength]
  case run_le =>
    rw [hrun, List.length_cons, hlength]
    omega
  case run_eq =>
    rw [hrun, List.reverse_cons, h.run_eq, List.length_cons, hlength, hback,
      List.drop_append_of_le_length (by omega), List.map_append, List.map_singleton]
  case run_code =>
    intro n hlow hhigh
    rw [hrun, List.length_cons, hlength, hback] at hlow
    rw [hlength] at hhigh
    rw [codeLineAt_concat]
    by_cases hlast : n = lines.length + 1
    · exact .inr ⟨hlast, hline⟩
    · exact .inl (h.run_code n hlow (by omega))
  case run_before =>
    rw [hrun, List.length_cons, hlength, hback, codeLineAt_concat_of_le (Nat.sub_le _ _)]
    exact h.run_before
  case before_eq =>
    intro _
    rw [hrun, List.length_cons, hlength, hback]
    show (if s.run.isEmpty then s.read else s.before) = _
    by_cases hnil : s.run = []
    · simp [hnil, h.read_eq]
    · simp [hnil, h.before_eq hnil]
  case done_iff =>
    intro b
    show b ∈ s.done ↔ _
    rw [h.done_iff, hlength]
    constructor
    · rintro ⟨first, last, hcode, hlt, hlong, rfl⟩
      exact ⟨first, last, (isCodeRun_concat_of_lt hlt).mpr hcode, by omega, hlong,
        hcode.ofSpan_concat.symm⟩
    · rintro ⟨first, last, hcode, hlt, hlong, rfl⟩
      have hne : last ≠ lines.length := by
        rintro rfl
        exact not_isCodeRun_concat_of_code hline hcode
      have hlt' : last < lines.length := by omega
      have hold := (isCodeRun_concat_of_lt hlt').mp hcode
      exact ⟨first, last, hold, hlt', hlong, hold.ofSpan_concat⟩

theorem Follows.skip (h : s.Follows profile minLines lines) (hmin : 1 ≤ minLines) {line : String}
    (hline : ¬IsCodeLine profile line) :
    Follows profile minLines (lines ++ [line]) { s.close minLines with read := s.read + 1 } := by
  have hlength : (lines ++ [line]).length = lines.length + 1 := by simp
  have hrun : (s.close minLines).run = [] := run_close minLines s
  constructor
  case read_eq => rw [h.read_eq, hlength]
  case run_le => simp [hrun]
  case run_eq => simp [hrun]
  case run_code =>
    intro n hlow hhigh
    simp only [hrun, List.length_nil, Nat.sub_zero] at hlow
    omega
  case run_before =>
    simp only [hrun, List.length_nil, Nat.sub_zero, hlength]
    intro hcode
    rcases codeLineAt_concat.mp hcode with hold | ⟨_, hnew⟩
    · have := hold.le_length
      omega
    · exact hline hnew
  case before_eq => exact fun hne => absurd hrun hne
  case done_iff =>
    intro b
    show b ∈ (s.close minLines).done ↔ _
    rw [h.mem_close hmin, hlength]
    constructor
    · rintro ⟨first, last, hcode, hlong, rfl⟩
      exact ⟨first, last, (isCodeRun_concat_of_not_code hline).mpr hcode, Nat.lt_succ_of_le hcode.ends, hlong,
        hcode.ofSpan_concat.symm⟩
    · rintro ⟨first, last, hcode, _, hlong, rfl⟩
      have hold := (isCodeRun_concat_of_not_code hline).mp hcode
      exact ⟨first, last, hold, hlong, hold.ofSpan_concat⟩

/-- One more line: code makes the run longer, anything else ends it. -/
theorem Follows.step (h : s.Follows profile minLines lines) (hmin : 1 ≤ minLines) (line : String) :
    (s.step profile minLines line).Follows profile minLines (lines ++ [line]) := by
  unfold BlockScan.step
  dsimp only
  split
  next hcode => exact h.extend (trimmedKind_eq_code.mp hcode)
  next hother => exact h.skip hmin (fun hcode => hother (trimmedKind_eq_code.mpr hcode))

/-- **All lines.** -/
theorem foldl_follows (hmin : 1 ≤ minLines) (profile : Profile) (lines : List String) :
    (lines.foldl (BlockScan.step profile minLines) ⟨0, 0, [], []⟩).Follows profile minLines lines := by
  induction lines using List.reverseRecOn with
  | nil => exact follows_start
  | append_singleton lines line ih =>
      rw [List.foldl_append, List.foldl_cons, List.foldl_nil]
      exact ih.step hmin line

end BlockScan

/-! ## The blocks of a file -/

section Blocks

variable {minLines : Nat}

/-- The blocks of a file are those of its maximal runs of code lines that are long enough. -/
theorem mem_extractBlocks (hmin : 1 ≤ minLines) {profile : Profile} {lines : List String} {b : CodeBlock} :
    b ∈ extractBlocks profile minLines lines ↔ ∃ first last, IsCodeRun profile lines first last ∧
      minLines ≤ last + 1 - first ∧ b = .ofSpan lines first last := by
  unfold extractBlocks
  rw [List.mem_reverse]
  exact (BlockScan.foldl_follows hmin profile lines).mem_close hmin

/-- The block shows a maximal run of code lines: its span, each line of the span trimmed, and the hash of the
    text that these make up. -/
structure CodeBlock.Shows (profile : Profile) (lines : List String) (b : CodeBlock) : Prop where
  run : IsCodeRun profile lines b.startLine b.endLine
  span : b.endLine - b.startLine + 1 = b.lineCount
  line : ∀ k < b.lineCount, b.lines[k]? = lines[b.startLine - 1 + k]?.map Text.trim
  hash_eq : b.hash = hashText (Text.joinTexts b.lines)

theorem CodeBlock.shows_ofSpan {profile : Profile} {lines : List String} {first last : Nat}
    (h : IsCodeRun profile lines first last) :
    (CodeBlock.ofSpan lines first last).Shows profile lines ∧
      (CodeBlock.ofSpan lines first last).lineCount = last + 1 - first := by
  have hstarts := h.starts
  have hends := h.ends
  have hnonempty := h.nonempty
  have hfirst : first - 1 + 1 = first := Nat.sub_add_cancel hstarts
  have hcount : (CodeBlock.ofSpan lines first last).lineCount = last + 1 - first := by
    simp only [CodeBlock.ofSpan, CodeBlock.ofLines, CodeBlock.lineCount, List.length_map, List.length_take,
      List.length_drop]
    omega
  refine ⟨⟨?_, ?_, ?_, rfl⟩, hcount⟩
  · show IsCodeRun profile lines (first - 1 + 1) last
    rw [hfirst]
    exact h
  · rw [hcount]
    show last - (first - 1 + 1) + 1 = _
    omega
  · intro k hk
    rw [hcount] at hk
    show (((lines.drop (first - 1)).take (last + 1 - first)).map Text.trim)[k]? =
      lines[first - 1 + 1 - 1 + k]?.map Text.trim
    rw [List.getElem?_map, List.getElem?_take_of_lt hk, List.getElem?_drop, Nat.add_sub_cancel]

/-- **The blocks of a file are its maximal runs of code lines**, those of at least the minimal length, one after
    another. Each block shows its run, and each run that is long enough has a block. -/
theorem blocks_are_code_runs (profile : Profile) (hmin : 1 ≤ minLines) (lines : List String) :
    (extractBlocks profile minLines lines).Pairwise (fun a b => a.endLine < b.startLine) ∧
      (∀ b ∈ extractBlocks profile minLines lines, b.Shows profile lines ∧ minLines ≤ b.lineCount) ∧
      ∀ first last, IsCodeRun profile lines first last → minLines ≤ last - first + 1 →
        ∃ b ∈ extractBlocks profile minLines lines, b.startLine = first ∧ b.endLine = last := by
  refine ⟨(extractBlocks_spans hmin profile lines).1, ?_, ?_⟩
  · intro b hb
    obtain ⟨first, last, hrun, hlong, rfl⟩ := (mem_extractBlocks hmin).mp hb
    obtain ⟨hshows, hcount⟩ := CodeBlock.shows_ofSpan hrun
    exact ⟨hshows, hcount ▸ hlong⟩
  · intro first last hrun hlong
    have hstarts := hrun.starts
    have hnonempty := hrun.nonempty
    refine ⟨_, (mem_extractBlocks hmin).mpr ⟨first, last, hrun, by omega, rfl⟩, ?_, rfl⟩
    show first - 1 + 1 = first
    omega

/-- A run at the end of a file, just long enough, with a comment before it. -/
theorem blocks_are_code_runs_at_the_end :
    let profile : Profile := { commentMarks := ["#"] }
    let lines := ["x", "", "# c", " a", "b "]
    1 ≤ 2 ∧ IsCodeRun profile lines 4 5 ∧
      ∃ b ∈ extractBlocks profile 2 lines, b.startLine = 4 ∧ b.endLine = 5 ∧ b.lines[0]? = some "a" := by
  intro profile lines
  have hmin : 1 ≤ 2 := by decide
  have hrun : IsCodeRun profile lines 4 5 := ⟨by decide, by decide, by decide, by decide, by decide, by decide⟩
  obtain ⟨_, hshows, hruns⟩ := blocks_are_code_runs profile hmin lines
  obtain ⟨b, hb, hstart, hend⟩ := hruns 4 5 hrun (by decide)
  obtain ⟨hshow, hlong⟩ := hshows b hb
  refine ⟨hmin, hrun, b, hb, hstart, hend, ?_⟩
  rw [hshow.line 0 (by omega), hstart]
  decide

end Blocks

end CodeCensus
