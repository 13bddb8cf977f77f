import CodeCensus.Proofs.CancelledScan
import CodeCensus.Proofs.SetSimilarity

/-!
# Scans with and without pruning

Pruning saves comparisons, so with it the workers may well take their turns in another order. Two scans are
compared here of which each has an order of its own. A single worker has no choice of turns, so whatever the
answers to its checks are, they are the same in both scans. Several workers that are never stopped compare all
rows, and sorting the hits hides who found them.

## Contents
- `Scan.runFor_sole`, `scanPairs_sole` — with one worker, the order of turns decides nothing;
- `scanPairs_unstopped` — with no stop, the order of turns decides nothing;
- `pruning_keeps_scans` — both scans, with and without pruning.
-/

namespace CodeCensus

/-! ## A single worker -/

namespace Scan

variable (compareRow : Nat → List Hit) (stop : Nat → Bool) (turn turn' : Nat → Nat)

/-- A single worker takes every turn. -/
theorem next?_sole (rows : List Nat) (hits : List (List Hit)) (checks : Nat) (stopped : Bool) :
    next? turn ⟨[rows], hits, checks, stopped⟩ = next? turn' ⟨[rows], hits, checks, stopped⟩ := by
  cases rows with
  | nil => simp [next?, busy]
  | cons row rest => simp [next?, busy, Nat.mod_one]

/-- **All turns of a single worker** are the same in any order. By induction on the turns: after each of them
    there is still one worker. -/
theorem runFor_sole (turns : Nat) (rows : List Nat) (hits : List (List Hit)) (checks : Nat) (stopped : Bool) :
    runFor compareRow stop turn turns ⟨[rows], hits, checks, stopped⟩ =
      runFor compareRow stop turn' turns ⟨[rows], hits, checks, stopped⟩ := by
  induction turns generalizing rows hits checks stopped with
  | zero => rfl
  | succ turns ih =>
      simp only [runFor]
      rw [next?_sole turn turn']
      cases hnext : next? turn' ⟨[rows], hits, checks, stopped⟩ with
      | none => rfl
      | some worker =>
          obtain ⟨row, rest, hrows⟩ := mem_busy.mp (mem_busy_of_next? hnext)
          obtain ⟨rfl, rfl⟩ : worker = 0 ∧ rows = row :: rest := by
            cases worker with
            | zero => exact ⟨rfl, Option.some.inj hrows⟩
            | succ w => cases hrows
          cases stop checks with
          | true => exact ih [] hits (checks + 1) true
          | false => exact ih rest (compareRow row :: hits) (checks + 1) stopped

end Scan

/-! ## The order of turns -/

section Turns

variable {options : SimilarityOptions} (kind : DuplicateKind) (excluded : Candidate → Candidate → Bool)
  (candidates : List Candidate)

/-- With one worker, the outcome of a scan does not depend on the order of turns. -/
theorem scanPairs_sole (hworkers : options.workers ≤ 1) (stop : Nat → Bool) (session : Session)
    (turn turn' : Nat → Nat) :
    scanPairs options kind excluded candidates stop session turn =
      scanPairs options kind excluded candidates stop session turn' := by
  have hrun : ∀ checks,
      (Scan.start (dealRows options.workers (candidates.length - 1)) checks).run
          (rowHits options excluded candidates) stop turn =
        (Scan.start (dealRows options.workers (candidates.length - 1)) checks).run
          (rowHits options excluded candidates) stop turn' := by
    intro checks
    rw [dealRows_single hworkers]
    exact Scan.runFor_sole _ stop turn turn' _ _ [] checks false
  unfold scanPairs
  simp only [hrun]

/-- What a scan that is not stopped remembers: no stop, and a check for each row. -/
theorem scanPairs_unstopped_session {stop : Nat → Bool} (hstop : ∀ n, stop n = false) (session : Session)
    (turn : Nat → Nat) :
    let outcome := scanPairs options kind excluded candidates stop session turn
    outcome.session = ⟨session.checks + (1 + (candidates.length - 1)), session.truncated⟩ ∧
      outcome.stoppedEarly = false := by
  intro outcome
  have hchecks : outcome.session.checks = session.checks + (1 + (candidates.length - 1)) :=
    scanPairs_checks fun k _ _ => hstop k
  have hmarks : outcome.session.truncated = session.truncated ∧ outcome.stoppedEarly = false := by
    unfold outcome scanPairs
    simp only [hstop, Bool.false_eq_true, if_false]
    split
    · exact ⟨rfl, rfl⟩
    · obtain ⟨hstopped, _⟩ := Scan.runFor_unstopped (rowHits options excluded candidates) turn hstop
        (s := Scan.start (dealRows options.workers (candidates.length - 1)) (session.checks + 1))
        (Nat.le_refl _)
      have hrun : ((Scan.start (dealRows options.workers (candidates.length - 1)) (session.checks + 1)).run
          (rowHits options excluded candidates) stop turn).stopped = false := hstopped
      simp [hrun]
  refine ⟨?_, hmarks.2⟩
  rw [← hchecks, ← hmarks.1]

/-- With no stop, the outcome of a scan does not depend on the order of turns. -/
theorem scanPairs_unstopped {stop : Nat → Bool} (hstop : ∀ n, stop n = false) (session : Session)
    (turn turn' : Nat → Nat) :
    scanPairs options kind excluded candidates stop session turn =
      scanPairs options kind excluded candidates stop session turn' := by
  have hgroups := scanPairs_groups options kind excluded candidates hstop session
  have hsession := @scanPairs_unstopped_session options kind excluded candidates stop hstop session
  rw [ScanOutcome.mk.injEq]
  refine ⟨(hgroups turn).trans (hgroups turn').symm, ?_, ?_⟩
  · exact (hsession turn).1.trans (hsession turn').1.symm
  · exact (hsession turn).2.trans (hsession turn').2.symm

end Turns

/-- **Pruning changes nothing.** Take the scan of the files and the scan of the blocks after it once with pruning
    and once without, each scan with an order of turns of its own. With one worker and any answers to the checks,
    and with several workers that are never stopped, both report the same groups, make the same number of checks,
    and leave the same mark of having been cut short; and so they do with any workers and any answers if the order
    of turns is the same. -/
theorem pruning_keeps_scans (options : SimilarityOptions) (records : List FileRecord) (stop : Nat → Bool)
    (session : Session) (turn turn' : DuplicateKind → Nat → Nat)
    (h : options.workers ≤ 1 ∨ (∀ n, stop n = false) ∨ turn = turn') :
    let pruned := { options with prune := true }
    let full := { options with prune := false }
    let prunedFiles := similarFiles pruned records stop session (turn .similarFile)
    let fullFiles := similarFiles full records stop session (turn' .similarFile)
    let prunedBlocks := similarBlocks pruned records stop prunedFiles.session (turn .similarBlock)
    let fullBlocks := similarBlocks full records stop fullFiles.session (turn' .similarBlock)
    (prunedFiles.groups = fullFiles.groups ∧ prunedFiles.session.checks = fullFiles.session.checks ∧
        prunedFiles.session.truncated = fullFiles.session.truncated) ∧
      prunedBlocks.groups = fullBlocks.groups ∧ prunedBlocks.session.checks = fullBlocks.session.checks ∧
        prunedBlocks.session.truncated = fullBlocks.session.truncated := by
  intro pruned full prunedFiles fullFiles prunedBlocks fullBlocks
  -- first another order of turns, then no pruning
  have hscan : ∀ kind excluded candidates session,
      scanPairs pruned kind excluded candidates stop session (turn kind) =
        scanPairs full kind excluded candidates stop session (turn' kind) := by
    intro kind excluded candidates session
    have hturns : scanPairs pruned kind excluded candidates stop session (turn kind) =
        scanPairs pruned kind excluded candidates stop session (turn' kind) := by
      rcases h with hworkers | hstop | rfl
      · have hsole : pruned.workers ≤ 1 := hworkers
        exact scanPairs_sole kind excluded candidates hsole stop session (turn kind) (turn' kind)
      · exact scanPairs_unstopped kind excluded candidates hstop session (turn kind) (turn' kind)
      · rfl
    exact hturns.trans (scanPairs_pruned options kind excluded candidates stop session (turn' kind))
  have hfiles : prunedFiles = fullFiles := hscan .similarFile sameContent _ session
  have hblocks : prunedBlocks = fullBlocks := by
    unfold prunedBlocks
    rw [hfiles]
    exact hscan .similarBlock sameFileOrText _ fullFiles.session
  rw [hfiles, hblocks]
  exact ⟨⟨rfl, rfl, rfl⟩, rfl, rfl, rfl⟩

/-- A file of one token. -/
def wordFile (word : String) : FileRecord := ⟨⟨.here, [word]⟩, word, .python, 1, 1, word, [], [word]⟩

/-- Two workers with opposite orders of turns, on three files of which each pair reaches the threshold zero. -/
theorem pruning_keeps_scans_two_workers :
    let options : SimilarityOptions := ⟨.int 0, 0, true, 2⟩
    let records := [wordFile "a", wordFile "b", wordFile "c"]
    let never : Nat → Bool := fun _ => false
    let pruned := similarFiles { options with prune := true } records never ⟨0, false⟩ fun _ => 0
    let full := similarFiles { options with prune := false } records never ⟨0, false⟩ fun _ => 1
    (∀ n, never n = false) ∧ pruned.groups.length = 3 ∧ pruned.groups = full.groups := by
  intro options records never pruned full
  have hnever : ∀ n, never n = false := fun _ => rfl
  refine ⟨hnever, ?_, (pruning_keeps_scans options records never ⟨0, false⟩ (fun _ _ => 0) (fun _ _ => 1)
    (.inr (.inl hnever))).1.1⟩
  show (scanPairs _ _ _ _ _ _ _).groups.length = 3
  rw [scanPairs_groups _ _ _ _ hnever]
  simp [fileCandidates, records, options, wordFile, orderedPairs, pairGroup?, pairSimilarity?_eq, sameContent, reaches_zero]

end CodeCensus
