import CodeCensus.Proofs.StoppedScan
import CodeCensus.Run.Host
import Mathlib.Data.List.Intervals

/-!
# Where a cancelled scan is cut

With one worker a scan is a loop: one check before any work, then one before each row. When the cancel event
is set after a number of checks, that number alone decides what is reported. The first check uses up one of
the answers that let the scan go on, and each row one more; so the rows that are compared are an initial part
of all rows, and the groups that are reported are those whose first candidate is early enough. The scan of the
blocks goes on counting where the scan of the files left off.

## Contents
- `Scan.runFor_checks`, `scanPairs_checks` — the checks of a scan that is let go on, for any number of workers;
- `Scan.runFor_single` — all turns of a single worker, up to the check that says to stop;
- `mem_numberedGroups` — the number of a group is the position of its first candidate;
- `scanPairs_cut` — the groups and the checks of a scan by one worker;
- `cancelled_scans_cut` — the two scans of a run that is cancelled after a number of checks.
-/

namespace CodeCensus

/-! ## Checks of a scan that is let go on -/

namespace Scan

variable (compareRow : Nat → List Hit) (stop : Nat → Bool) (turn : Nat → Nat)

/-- A turn makes one check, whatever its answer. -/
theorem step_checks {turn : Nat → Nat} {s : Scan} {worker : Nat} (answer : Bool) (hnext : s.next? turn = some worker) :
    (s.step compareRow worker answer).checks = s.checks + 1 := by
  obtain ⟨row, rest, hrows⟩ := mem_busy.mp (mem_busy_of_next? hnext)
  cases answer with
  | true => simp [step, hrows]
  | false => simp [step, hrows]

theorem checks_le_runFor (turns : Nat) (s : Scan) :
    s.checks ≤ (s.runFor compareRow stop turn turns).checks := by
  induction turns generalizing s with
  | zero => exact Nat.le_refl _
  | succ turns ih =>
      cases hnext : s.next? turn with
      | none => simp [runFor, hnext]
      | some worker =>
          have hstep := step_checks compareRow (stop s.checks) hnext
          have hlater := ih (s.step compareRow worker (stop s.checks))
          simp only [runFor, hnext]
          omega

/-- **One check for each row** is made when no check says to stop. By induction on the turns: each takes one
    row off and adds one check. -/
theorem runFor_checks {turns : Nat} {s : Scan} (hturns : s.rowsLeft ≤ turns)
    (hquiet : ∀ k, s.checks ≤ k → k < (s.runFor compareRow stop turn turns).checks → stop k = false) :
    (s.runFor compareRow stop turn turns).checks = s.checks + s.rowsLeft := by
  induction turns generalizing s with
  | zero =>
      have hnone : s.rowsLeft = 0 := Nat.le_zero.mp hturns
      rw [hnone]
      rfl
  | succ turns ih =>
      cases hnext : s.next? turn with
      | none =>
          have hnone : s.rowsLeft = 0 := by
            unfold rowsLeft
            rw [pending_of_next?_none hnext]
            rfl
          simp [runFor, hnext, hnone]
      | some worker =>
          simp only [runFor, hnext] at hquiet ⊢
          -- the check of this turn is among those that let the scan go on
          have hmade := checks_le_runFor compareRow stop turn turns (s.step compareRow worker (stop s.checks))
          rw [step_checks compareRow _ hnext] at hmade
          have hgo : stop s.checks = false := hquiet s.checks (Nat.le_refl _) hmade
          rw [hgo] at hquiet ⊢
          have hchecks := step_checks compareRow false hnext
          obtain ⟨hleft, _, _⟩ := step_unstopped compareRow hnext
          rw [ih (by omega) fun k hk => hquiet k (by omega)]
          omega

end Scan

theorem rowsLeft_start (workers rows checks : Nat) :
    (Scan.start (dealRows workers rows) checks).rowsLeft = rows := by
  have hdealt := (dealRows_perm workers rows).length_eq
  rw [List.length_range] at hdealt
  exact hdealt

section Pairs

variable {options : SimilarityOptions} {kind : DuplicateKind} {excluded : Candidate → Candidate → Bool}
  {candidates : List Candidate} {stop : Nat → Bool} {session : Session} {turn : Nat → Nat}

/-- **The checks of a scan in which none says to stop:** one before any work, and one for each candidate but
    the last. -/
theorem scanPairs_checks
    (hquiet : ∀ k, session.checks ≤ k →
      k < (scanPairs options kind excluded candidates stop session turn).session.checks → stop k = false) :
    (scanPairs options kind excluded candidates stop session turn).session.checks =
      session.checks + (1 + (candidates.length - 1)) := by
  unfold scanPairs at hquiet ⊢
  cases hfirst : stop session.checks with
  | true =>
      simp only [hfirst, if_true] at hquiet
      have hgo := hquiet session.checks (Nat.le_refl _) (Nat.lt_succ_self _)
      exact absurd (hfirst.symm.trans hgo) (by simp)
  | false =>
      simp only [hfirst, Bool.false_eq_true, if_false] at hquiet ⊢
      by_cases hfew : candidates.length < 2
      · rw [if_pos hfew]
        show session.checks + 1 = _
        omega
      · rw [if_neg hfew] at hquiet ⊢
        have hrows := rowsLeft_start options.workers (candidates.length - 1) (session.checks + 1)
        have hchecks := Scan.runFor_checks _ stop turn (Nat.le_refl _) fun k hk =>
          hquiet k (Nat.le_of_succ_le hk)
        show (Scan.run _ _ _ _).checks = _
        unfold Scan.run
        rw [hchecks, hrows]
        show session.checks + 1 + (candidates.length - 1) = _
        omega

end Pairs

/-! ## A single worker -/

namespace Scan

variable (compareRow : Nat → List Hit) (turn : Nat → Nat)

/-- With no rows left nobody takes a turn. -/
theorem runFor_idle (stop : Nat → Bool) (turns : Nat) (hits : List (List Hit)) (checks : Nat) (stopped : Bool) :
    runFor compareRow stop turn turns ⟨[[]], hits, checks, stopped⟩ = ⟨[[]], hits, checks, stopped⟩ := by
  have hnext : next? turn ⟨[[]], hits, checks, stopped⟩ = none := by simp [next?, busy]
  cases turns with
  | zero => rfl
  | succ turns => simp only [runFor, hnext]

/-- **All turns of a single worker**, when the checks from number `last` on say to stop. It compares as many
    rows as checks are left before that one, and the check at which it stops is its last. -/
theorem runFor_single (last : Nat) {rows : List Nat} {turns : Nat} (hturns : rows.length ≤ turns)
    (hits : List (List Hit)) (checks : Nat) (stopped : Bool) :
    runFor compareRow (fun k => decide (last ≤ k)) turn turns ⟨[rows], hits, checks, stopped⟩ =
      ⟨[[]], ((rows.take (last - checks)).map compareRow).reverse ++ hits,
        checks + min (last - checks + 1) rows.length, stopped || decide (last - checks < rows.length)⟩ := by
  induction rows generalizing turns hits checks stopped with
  | nil =>
      rw [runFor_idle]
      simp
  | cons row rest ih =>
      obtain ⟨turns, rfl⟩ : ∃ t, turns = t + 1 := ⟨turns - 1, by simp only [List.length_cons] at hturns; omega⟩
      have hrest : rest.length ≤ turns := Nat.le_of_succ_le_succ hturns
      have hnext : next? turn ⟨[row :: rest], hits, checks, stopped⟩ = some 0 := by
        simp [next?, busy, Nat.mod_one]
      simp only [runFor, hnext]
      by_cases hlast : last ≤ checks
      · -- the answer is to stop, and the rows are given up
        have hleft : last - checks = 0 := Nat.sub_eq_zero_of_le hlast
        have hstep : step compareRow 0 (decide (last ≤ checks)) ⟨[row :: rest], hits, checks, stopped⟩ =
            ⟨[[]], hits, checks + 1, true⟩ := by simp [step, hlast]
        rw [hstep, runFor_idle, hleft]
        simp
      · -- the row is compared, with one check fewer left for the others
        have hleft : last - checks = (last - (checks + 1)) + 1 := by omega
        have hstep : step compareRow 0 (decide (last ≤ checks)) ⟨[row :: rest], hits, checks, stopped⟩ =
            ⟨[rest], compareRow row :: hits, checks + 1, stopped⟩ := by simp [step, hlast]
        rw [hstep, ih hrest, hleft]
        simp only [List.take_succ_cons, List.map_cons, List.reverse_cons, List.append_assoc, List.cons_append,
          List.nil_append, List.length_cons, Nat.add_lt_add_iff_right, mk.injEq, and_true, true_and]
        omega

end Scan

/-- A single worker has all rows, in order. -/
theorem dealRows_single {workers : Nat} (hworkers : workers ≤ 1) (rows : Nat) :
    dealRows workers rows = [List.range rows] := by
  have hone : partitions workers rows = 1 := by
    unfold partitions
    omega
  unfold dealRows numbersFrom
  simp [hone, List.range_eq_range']

theorem filter_lt_range (m n : Nat) : (List.range m).filter (fun k => k < n) = (List.range m).take n := by
  rw [← List.Ico.zero_bot, List.Ico.filter_lt, List.Ico.zero_bot, List.Ico.zero_bot, List.take_range, Nat.min_comm]

/-! ## Groups by their first candidate -/

section Cut

variable (options : SimilarityOptions) (kind : DuplicateKind) (excluded : Candidate → Candidate → Bool)
  (candidates : List Candidate)

/-- The number of a group is the position of its first candidate; the second one comes later. -/
theorem mem_numberedGroups {i : Nat} {g : DuplicateGroup} :
    (i, g) ∈ numberedGroups options kind excluded candidates ↔
      ∃ j a b, i < j ∧ candidates[i]? = some a ∧ candidates[j]? = some b ∧
        pairGroup? options kind excluded a b = some g := by
  have hrow : (i, g) ∈ numberedGroups options kind excluded candidates ↔
      i < candidates.length - 1 ∧ g ∈ rowGroups options kind excluded (candidates.drop i) := by
    simp [numberedGroups]
  rw [hrow]
  constructor
  · rintro ⟨hi, hg⟩
    have hlt : i < candidates.length := by omega
    rw [List.drop_eq_getElem_cons hlt] at hg
    obtain ⟨b, hb, hpair⟩ := List.mem_filterMap.mp hg
    obtain ⟨k, hk⟩ := List.mem_iff_getElem?.mp hb
    rw [List.getElem?_drop] at hk
    exact ⟨i + 1 + k, candidates[i], b, by omega, List.getElem?_eq_getElem hlt, hk, hpair⟩
  · rintro ⟨j, a, b, hij, ha, hb, hpair⟩
    obtain ⟨hlt, rfl⟩ := List.getElem?_eq_some_iff.mp ha
    obtain ⟨hj, _⟩ := List.getElem?_eq_some_iff.mp hb
    refine ⟨by omega, ?_⟩
    rw [List.drop_eq_getElem_cons hlt]
    refine List.mem_filterMap.mpr ⟨b, List.mem_iff_getElem?.mpr ⟨j - (i + 1), ?_⟩, hpair⟩
    rw [List.getElem?_drop, Nat.add_sub_of_le hij]
    exact hb

/-- A scan that is told to stop by its first check reports nothing. -/
theorem scanPairs_refused (stop : Nat → Bool) {session : Session} (hstop : stop session.checks = true)
    (turn : Nat → Nat) :
    (scanPairs options kind excluded candidates stop session turn).groups = [] ∧
      (scanPairs options kind excluded candidates stop session turn).session.checks = session.checks + 1 := by
  unfold scanPairs
  rw [if_pos hstop]
  exact ⟨rfl, rfl⟩

/-- **A scan by one worker**, when the checks from number `last` on say to stop. With so many checks left
    before that one, the scan reports the groups whose first candidate is at least two positions earlier; it
    ends with the check that says to stop, or with the check of the last row. -/
theorem scanPairs_cut (hworkers : options.workers ≤ 1) (last : Nat) (session : Session) (turn : Nat → Nat) :
    let outcome := scanPairs options kind excluded candidates (fun k => decide (last ≤ k)) session turn
    outcome.groups = ((numberedGroups options kind excluded candidates).filter
        fun x => x.1 + 2 ≤ last - session.checks).map Prod.snd ∧
      outcome.session.checks =
        session.checks + min (last - session.checks + 1) (1 + (candidates.length - 1)) := by
  intro outcome
  by_cases hfirst : last ≤ session.checks
  · have hleft : last - session.checks = 0 := Nat.sub_eq_zero_of_le hfirst
    obtain ⟨hgroups, hchecks⟩ := scanPairs_refused options kind excluded candidates
      (fun k => decide (last ≤ k)) (decide_eq_true hfirst) turn
    rw [hleft]
    constructor
    · refine hgroups.trans ?_
      simp
    · refine hchecks.trans ?_
      omega
  · unfold outcome scanPairs
    simp only [hfirst, decide_false, Bool.false_eq_true, if_false]
    by_cases hfew : candidates.length < 2
    · have hrows : candidates.length - 1 = 0 := by omega
      rw [if_pos hfew]
      constructor
      · simp [numberedGroups, hrows]
      · show session.checks + 1 = _
        omega
    · rw [if_neg hfew]
      have hturns : (List.range (candidates.length - 1)).length ≤
          (Scan.start [List.range (candidates.length - 1)] (session.checks + 1)).rowsLeft := by
        simp [Scan.rowsLeft, Scan.start]
      have hscan := Scan.runFor_single (rowHits options excluded candidates) turn last hturns []
        (session.checks + 1) false
      rw [dealRows_single hworkers]
      unfold Scan.run
      constructor
      · -- the rows compared, in the order of their positions
        have hkept : (List.range (candidates.length - 1)).take (last - (session.checks + 1)) =
            (List.range (candidates.length - 1)).filter fun row => row + 2 ≤ last - session.checks := by
          rw [← filter_lt_range]
          congr 1
          funext row
          rw [decide_eq_decide]
          omega
        have hperm : (((List.range (candidates.length - 1)).take (last - (session.checks + 1))).map
            (rowHits options excluded candidates)).reverse.flatten.Perm
            (((List.range (candidates.length - 1)).take (last - (session.checks + 1))).flatMap
              (rowHits options excluded candidates)) := by
          rw [List.flatMap_def]
          exact (List.reverse_perm _).flatten
        have hsorted := rowHits_before options excluded candidates
          (List.pairwise_lt_range.sublist (List.take_sublist (last - (session.checks + 1))
            (List.range (candidates.length - 1))))
        show List.filterMap _ (Scan.sortedHits (Scan.runFor _ _ _ _ ⟨_, [], _, false⟩)) = _
        rw [hscan, List.append_nil, Scan.sortedHits_eq hperm hsorted, List.filterMap_flatMap]
        simp only [rowHits_groups]
        rw [hkept]
        exact (numberedGroups_filter options kind excluded candidates _).symm
      · show (Scan.runFor _ _ _ _ ⟨_, [], _, false⟩).checks = _
        rw [hscan]
        simp only [List.length_range]
        omega

variable {options kind excluded candidates}

/-- The second of two scans in a session ends it as cut short exactly if a check of either said to stop. -/
theorem HonestOutcome.truncated_after {kind' : DuplicateKind} {excluded' : Candidate → Candidate → Bool}
    {candidates' : List Candidate} {stop : Nat → Bool} {first second : ScanOutcome}
    (h : HonestOutcome options kind excluded candidates stop ⟨0, false⟩ first)
    (h' : HonestOutcome options kind' excluded' candidates' stop first.session second)
    (hgrows : first.session.checks ≤ second.session.checks) :
    second.session.truncated = true ↔ ∃ k < second.session.checks, stop k = true := by
  rw [h'.truncated_iff, h.truncated_iff]
  constructor
  · rintro ((hmarked | ⟨k, _, hk, htrue⟩) | ⟨k, _, hk, htrue⟩)
    · exact absurd hmarked Bool.false_ne_true
    · exact ⟨k, Nat.lt_of_lt_of_le hk hgrows, htrue⟩
    · exact ⟨k, hk, htrue⟩
  · rintro ⟨k, hk, htrue⟩
    by_cases hbefore : k < first.session.checks
    · exact Or.inl (Or.inr ⟨k, Nat.zero_le k, hbefore, htrue⟩)
    · exact Or.inr ⟨k, Nat.not_lt.mp hbefore, hk, htrue⟩

end Cut

/-! ## Cancelled runs -/

/-- A host on which the cancel event is not set at the first `n` checks of a run and is set from then on. -/
def RunHost.cancelledAfter (host : RunHost) (n : Nat) : RunHost :=
  { host with cancelled := fun k => decide (n ≤ k) }

theorem RunHost.cancelledAfter_stops (host : RunHost) (n : Nat) :
    (host.cancelledAfter n).stops none = fun k => decide (n ≤ k) := by
  funext k
  unfold RunHost.stops RunHost.check RunHost.cancelledAfter
  by_cases h : n ≤ k
  · simp [h]
  · simp [h, deadlinePassed]

/-- What one worker reports of the files and then of the blocks when the checks from number `n` on say to stop.
    The groups of an unstopped scan of the files are numbered by their first candidate; those with a number
    `i` such that `i + 2 ≤ n` are reported. -/
structure CutRun (options : SimilarityOptions) (records : List FileRecord) (n : Nat) (stop : Nat → Bool)
    (numbered : List (Nat × DuplicateGroup)) (files blocks : ScanOutcome) : Prop where
  unstopped : ∀ session turn,
    (similarFiles options records (fun _ => false) session turn).groups = numbered.map Prod.snd
  first_candidate : ∀ i g, (i, g) ∈ numbered ↔ ∃ j a b, i < j ∧
    (fileCandidates options.minTokens records)[i]? = some a ∧
    (fileCandidates options.minTokens records)[j]? = some b ∧
    pairGroup? options .similarFile sameContent a b = some g
  files_groups : files.groups = (numbered.filter fun x => x.1 + 2 ≤ n).map Prod.snd
  files_none : n = 0 → files.groups = []
  blocks_after_stop : (∃ k < files.session.checks, stop k = true) →
    blocks.groups = [] ∧ blocks.session.checks = files.session.checks + 1
  files_checks : (∀ k < files.session.checks, stop k = false) →
    files.session.checks = 1 + ((fileCandidates options.minTokens records).length - 1)
  blocks_checks : (∀ k, files.session.checks ≤ k → k < blocks.session.checks → stop k = false) →
    blocks.session.checks =
      files.session.checks + (1 + ((blockCandidates options.minTokens records).length - 1))
  truncated_iff : blocks.session.truncated = true ↔ ∃ k < blocks.session.checks, stop k = true

/-- **A run that is cancelled after `n` checks**, with one worker and for every list of files. The scan of the
    files reports the groups of an unstopped scan whose first candidate stands at a position `i` with
    `i + 2 ≤ n`. If it has seen the event set, the scan of the blocks reports nothing and makes one check. A
    scan in which no check says to stop makes one check, and one more for each candidate but the last. The
    session is marked as cut short exactly if a check of the two scans said to stop. -/
theorem cancelled_scans_cut (options : SimilarityOptions) (records : List FileRecord) (n : Nat)
    (host : RunHost) :
    let single := { options with workers := 1 }
    let stop := (host.cancelledAfter n).stops none
    let files := similarFiles single records stop ⟨0, false⟩ (host.turn .similarFile)
    let blocks := similarBlocks single records stop files.session (host.turn .similarBlock)
    CutRun single records n stop
      (numberedGroups single .similarFile sameContent (fileCandidates single.minTokens records)) files
      blocks := by
  intro single stop files blocks
  have hone : single.workers ≤ 1 := Nat.le_refl 1
  have hstop : stop = fun k => decide (n ≤ k) := host.cancelledAfter_stops n
  have hcutFiles := scanPairs_cut single .similarFile sameContent (fileCandidates single.minTokens records)
    hone n ⟨0, false⟩ (host.turn .similarFile)
  have hcutBlocks := scanPairs_cut single .similarBlock sameFileOrText
    (blockCandidates single.minTokens records) hone n files.session (host.turn .similarBlock)
  rw [← hstop] at hcutFiles hcutBlocks
  obtain ⟨hfiles, _⟩ := hcutFiles
  obtain ⟨_, hmore⟩ := hcutBlocks
  constructor
  case unstopped =>
    exact scanPairs_numbered single .similarFile sameContent _ fun _ => rfl
  case first_candidate =>
    intro i g
    exact mem_numberedGroups single .similarFile sameContent _
  case files_groups => exact hfiles
  case files_none =>
    intro hzero
    refine hfiles.trans ?_
    rw [hzero]
    simp
  case blocks_after_stop =>
    rintro ⟨k, hk, htrue⟩
    -- the event is still set at the first check of the blocks
    have hset : stop files.session.checks = true := by
      rw [hstop] at htrue ⊢
      have hseen : n ≤ k := of_decide_eq_true htrue
      exact decide_eq_true (hseen.trans hk.le)
    exact scanPairs_refused single .similarBlock sameFileOrText (blockCandidates single.minTokens records)
      stop hset (host.turn .similarBlock)
  case files_checks =>
    intro hquiet
    have hchecks : files.session.checks = 0 + _ := scanPairs_checks fun k _ => hquiet k
    exact hchecks.trans (Nat.zero_add _)
  case blocks_checks =>
    intro hquiet
    exact scanPairs_checks hquiet
  case truncated_iff =>
    have hgrows : files.session.checks ≤ blocks.session.checks := Nat.le.intro hmore.symm
    have hhonest : HonestOutcome single .similarFile sameContent (fileCandidates single.minTokens records)
      stop ⟨0, false⟩ files := scanPairs_honest (host.turn .similarFile)
    exact hhonest.truncated_after (scanPairs_honest (host.turn .similarBlock)) hgrows

end CodeCensus
