import CodeCensus.Duplicate.Similar
import Mathlib.Data.List.Nodup

/-!
# A scan that runs to its end

The workers of a scan take turns in an order that is not up to the scan. Each turn moves one row from
its worker's list to the rows that have been compared, so the rows compared and the rows left always
make up the rows that were dealt; at the end none is left. Put in the order of their positions, the hits
are those of all rows, whatever the number of workers and the order of their turns.

## Contents
- `dealRows_perm` — every row is dealt to one worker, once;
- `Scan.step_unstopped`, `Scan.runFor_unstopped` — one turn, and all turns, of a scan that is not stopped;
- `Scan.sortedHits_eq` — the sorted hits of a scan.
-/

namespace CodeCensus

/-! ## Dealing the rows -/

theorem mem_numbersFrom {start stop step x : Nat} (hstep : 0 < step) :
    x ∈ numbersFrom start stop step ↔ x < stop ∧ ∃ k, x = start + step * k := by
  have hlt : ∀ k, k < (stop - start + (step - 1)) / step ↔ start + step * k < stop := by
    intro k
    rw [Nat.lt_iff_add_one_le, Nat.le_div_iff_mul_le hstep, Nat.add_mul, Nat.one_mul, Nat.mul_comm k]
    omega
  unfold numbersFrom
  rw [List.mem_range']
  constructor
  · rintro ⟨k, hk, rfl⟩
    exact ⟨(hlt k).mp hk, k, rfl⟩
  · rintro ⟨hx, k, rfl⟩
    exact ⟨k, (hlt k).mpr hx, rfl⟩

theorem partitions_pos (workers rows : Nat) : 0 < partitions workers rows := by
  unfold partitions
  omega

/-- **Every row is dealt exactly once**, to the worker that its number leaves as a remainder. -/
theorem dealRows_perm (workers rows : Nat) :
    (dealRows workers rows).flatten.Perm (List.range rows) := by
  have hpos := partitions_pos workers rows
  unfold dealRows
  rw [← List.flatMap_def]
  set n := partitions workers rows
  apply (List.perm_ext_iff_of_nodup ?_ List.nodup_range).mpr
  · intro row
    rw [List.mem_flatMap, List.mem_range]
    constructor
    · rintro ⟨offset, _, hrow⟩
      exact ((mem_numbersFrom hpos).mp hrow).1
    · intro hrow
      have hplace : row = row % n + n * (row / n) := (Nat.mod_add_div row n).symm
      exact ⟨row % n, List.mem_range.mpr (Nat.mod_lt row hpos),
        (mem_numbersFrom hpos).mpr ⟨hrow, row / n, hplace⟩⟩
  · rw [List.nodup_flatMap]
    refine ⟨fun offset _ => List.nodup_range' n hpos, ?_⟩
    -- the rows of two workers leave different remainders
    refine List.Pairwise.imp_of_mem ?_ List.nodup_range
    intro a b ha hb hab row hrowa hrowb
    obtain ⟨_, i, hi⟩ := (mem_numbersFrom hpos).mp hrowa
    obtain ⟨_, j, hj⟩ := (mem_numbersFrom hpos).mp hrowb
    have hmod : a % n = b % n := by
      rw [← Nat.add_mul_mod_self_left a n i, ← hi, hj, Nat.add_mul_mod_self_left]
    rw [Nat.mod_eq_of_lt (List.mem_range.mp ha), Nat.mod_eq_of_lt (List.mem_range.mp hb)] at hmod
    exact hab hmod

/-! ## Taking turns -/

namespace Scan

variable {stop : Nat → Bool} {turn : Nat → Nat} {s : Scan} {worker : Nat}

/-- The busy workers are those with a row to compare. -/
theorem mem_busy : worker ∈ s.busy ↔ ∃ row rest, s.pending[worker]? = some (row :: rest) := by
  unfold busy
  rw [List.mem_filter, List.mem_range]
  cases hrows : s.pending[worker]? with
  | none => simp
  | some rows =>
      obtain ⟨hlt, _⟩ := List.getElem?_eq_some_iff.mp hrows
      cases rows with
      | nil => simp
      | cons row rest => simp [hlt]

theorem mem_busy_of_next? (hnext : s.next? turn = some worker) : worker ∈ s.busy :=
  List.mem_of_getElem? hnext

/-- Nobody's turn comes only when no row is left. -/
theorem pending_of_next?_none (hnext : s.next? turn = none) : s.pending.flatten = [] := by
  have hbusy : s.busy = [] := by
    unfold next? at hnext
    rw [List.getElem?_eq_none_iff] at hnext
    by_contra hne
    have hlt := Nat.mod_lt (turn s.checks) (List.length_pos_iff.mpr hne)
    omega
  rw [List.flatten_eq_nil_iff]
  intro rows hrows
  obtain ⟨w, hw⟩ := List.mem_iff_getElem?.mp hrows
  cases rows with
  | nil => rfl
  | cons row rest =>
      have hmem : w ∈ s.busy := mem_busy.mpr ⟨row, rest, hw⟩
      rw [hbusy] at hmem
      exact absurd hmem (by simp)

/-- Taking a row off one list takes it off all rows. -/
theorem flatten_set_perm {pending : List (List Nat)} {row : Nat} {rest : List Nat}
    (h : pending[worker]? = some (row :: rest)) :
    pending.flatten.Perm (row :: (pending.set worker rest).flatten) := by
  induction pending generalizing worker with
  | nil => simp at h
  | cons rows others ih =>
      cases worker with
      | zero =>
          rw [List.getElem?_cons_zero, Option.some.injEq] at h
          subst h
          exact List.Perm.refl _
      | succ w =>
          rw [List.getElem?_cons_succ] at h
          simp only [List.flatten_cons, List.set_cons_succ]
          exact ((ih h).append_left rows).trans List.perm_middle

/-- **One turn.** With no stop, the worker's first row goes from the rows left to the rows compared. -/
theorem step_unstopped (compareRow : Nat → List Hit) (hnext : s.next? turn = some worker) :
    (s.step compareRow worker false).rowsLeft + 1 = s.rowsLeft ∧
      (s.step compareRow worker false).stopped = s.stopped ∧
      ((s.step compareRow worker false).hits.flatten ++
          (s.step compareRow worker false).pending.flatten.flatMap compareRow).Perm
        (s.hits.flatten ++ s.pending.flatten.flatMap compareRow) := by
  obtain ⟨row, rest, hrows⟩ := mem_busy.mp (mem_busy_of_next? hnext)
  have hperm := flatten_set_perm hrows
  have hstep : s.step compareRow worker false =
      { s with
        pending := s.pending.set worker rest
        hits := compareRow row :: s.hits
        checks := s.checks + 1 } := by
    simp [step, hrows]
  rw [hstep]
  refine ⟨?_, rfl, ?_⟩
  · have hlength := hperm.length_eq
    rw [List.length_cons] at hlength
    exact hlength.symm
  · have hflat := hperm.flatMap_right compareRow
    rw [List.flatMap_cons] at hflat
    simp only [List.flatten_cons]
    have hmove : (compareRow row ++ s.hits.flatten).Perm (s.hits.flatten ++ compareRow row) :=
      List.perm_append_comm
    have hleft := hmove.append_right ((s.pending.set worker rest).flatten.flatMap compareRow)
    rw [List.append_assoc s.hits.flatten] at hleft
    exact hleft.trans (hflat.symm.append_left _)

/-- **All turns.** With enough turns and no stop, every row is compared: the hits are those there were and
    those of the rows that were left. By induction on the turns, with one row fewer left after each. -/
theorem runFor_unstopped (compareRow : Nat → List Hit) (turn : Nat → Nat)
    (hstop : ∀ n, stop n = false) {turns : Nat} (hturns : s.rowsLeft ≤ turns) :
    (s.runFor compareRow stop turn turns).stopped = s.stopped ∧
      (s.runFor compareRow stop turn turns).hits.flatten.Perm
        (s.hits.flatten ++ s.pending.flatten.flatMap compareRow) := by
  induction turns generalizing s with
  | zero =>
      have hnone : s.pending.flatten = [] := List.length_eq_zero_iff.mp (Nat.le_zero.mp hturns)
      simp [runFor, hnone]
  | succ turns ih =>
      cases hnext : s.next? turn with
      | none => simp [runFor, hnext, pending_of_next?_none hnext]
      | some worker =>
          obtain ⟨hleft, hstopped, hperm⟩ := step_unstopped compareRow hnext
          simp only [runFor, hnext, hstop]
          obtain ⟨ihstopped, ihperm⟩ := ih (s := s.step compareRow worker false) (by omega)
          exact ⟨ihstopped.trans hstopped, ihperm.trans hperm⟩

end Scan

/-! ## Sorting the hits -/

namespace Hit

/-- The first position comes before the second, row by row. -/
def Before (a b : Hit) : Prop := a.row < b.row ∨ a.row = b.row ∧ a.column < b.column

theorem notAfter_iff {a b : Hit} :
    a.notAfter b = true ↔ a.row < b.row ∨ a.row = b.row ∧ a.column ≤ b.column := by
  simp [notAfter]

theorem notAfter_trans (a b c : Hit) (hab : a.notAfter b = true) (hbc : b.notAfter c = true) :
    a.notAfter c = true := by
  rw [notAfter_iff] at *
  omega

theorem notAfter_total (a b : Hit) : (a.notAfter b || b.notAfter a) = true := by
  rw [Bool.or_eq_true, notAfter_iff, notAfter_iff]
  omega

theorem Before.notAfter {a b : Hit} (h : a.Before b) : a.notAfter b = true := by
  unfold Before at h
  rw [notAfter_iff]
  omega

end Hit

/-- **The hits of a scan in order.** Hits at different positions have one order, so sorting finds it
    whatever order they were found in. -/
theorem Scan.sortedHits_eq {s : Scan} {hits : List Hit} (hperm : s.hits.flatten.Perm hits)
    (hsorted : hits.Pairwise Hit.Before) : s.sortedHits = hits := by
  have hsort := List.pairwise_mergeSort Hit.notAfter_trans Hit.notAfter_total s.hits.flatten
  have hmerged := (List.mergeSort_perm s.hits.flatten Hit.notAfter).trans hperm
  have hplaces : (hits.map fun h => (h.row, h.column)).Nodup := by
    rw [List.Nodup, List.pairwise_map]
    refine hsorted.imp ?_
    intro a b hab heq
    unfold Hit.Before at hab
    rw [Prod.mk.injEq] at heq
    omega
  refine hmerged.eq_of_pairwise ?_ hsort (hsorted.imp Hit.Before.notAfter)
  intro a b ha hb hab hba
  apply List.inj_on_of_nodup_map hplaces (hmerged.subset ha) hb
  rw [Hit.notAfter_iff] at hab hba
  rw [Prod.mk.injEq]
  omega

end CodeCensus
