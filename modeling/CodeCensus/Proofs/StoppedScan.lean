import CodeCensus.Proofs.SimilarPairs
import Mathlib.Data.List.Flatten

/-!
# A scan that may be stopped

Each worker asks before every row whether to stop, and gives up its remaining rows once the answer is yes.
So at any moment the rows that were dealt to a worker fall into three consecutive parts: those it has
compared, those it still has, and those it has given up. A turn moves rows between the parts of one worker
and leaves their order alone; at the end no worker has rows left, and what was compared is an initial
segment of what was dealt.

## Contents
- `WorkerRows` — the rows of one worker, by what became of them;
- `Scan.Progress` — how far a scan has come, with `Progress.step` for one turn and `Progress.runFor` for all;
- `numberedGroups` — the groups of all pairs, each with the row that it is found in;
- `HonestOutcome` — an outcome that tells what was left out;
- `stopped_scans_honest` — the outcomes of the two scans.
-/

namespace CodeCensus

/-! ## The rows of a worker -/

/-- The rows that were dealt to one worker, by what became of them. -/
structure WorkerRows where
  compared : List Nat
  left : List Nat
  dropped : List Nat

namespace WorkerRows

/-- All rows of the worker, in the order in which it takes them. -/
def dealt (w : WorkerRows) : List Nat := w.compared ++ (w.left ++ w.dropped)

/-- The worker compares its next row. -/
def advance (w : WorkerRows) (row : Nat) (rest : List Nat) : WorkerRows :=
  { w with compared := w.compared ++ [row], left := rest }

/-- The worker gives up the rows that it has left. -/
def giveUp (w : WorkerRows) : WorkerRows := { w with left := [], dropped := w.left ++ w.dropped }

theorem dealt_advance {w : WorkerRows} {row : Nat} {rest : List Nat} (h : w.left = row :: rest) :
    (w.advance row rest).dealt = w.dealt := by
  simp [dealt, advance, h]

theorem dealt_giveUp (w : WorkerRows) : w.giveUp.dealt = w.dealt := rfl

end WorkerRows

section Replacing

variable {α β : Type} {xs : List α} {i : Nat} {old new : α}

/-- Replacing an element by one with the same image changes no image. -/
theorem map_set_same {f : α → β} (h : xs[i]? = some old) (hf : f new = f old) :
    (xs.set i new).map f = xs.map f := by
  obtain ⟨hi, hold⟩ := List.getElem?_eq_some_iff.mp h
  have himage : (xs.map f)[i]? = some (f old) := by simp [h]
  obtain ⟨hi', hget⟩ := List.getElem?_eq_some_iff.mp himage
  rw [List.map_set, hf, ← hget, List.set_getElem_self]

/-- Replacing an element by one that brings more brings that much more in all. -/
theorem flatMap_set_perm {f : α → List β} {extra : List β} (h : xs[i]? = some old)
    (hf : f new = f old ++ extra) : ((xs.set i new).flatMap f).Perm (extra ++ xs.flatMap f) := by
  induction xs generalizing i with
  | nil => simp at h
  | cons x rest ih =>
      cases i with
      | zero =>
          rw [List.getElem?_cons_zero, Option.some.injEq] at h
          subst h
          rw [List.set_cons_zero, List.flatMap_cons, List.flatMap_cons, hf, ← List.append_assoc]
          exact List.perm_append_comm.append_right _
      | succ k =>
          rw [List.getElem?_cons_succ] at h
          rw [List.set_cons_succ, List.flatMap_cons, List.flatMap_cons]
          refine ((ih h).append_left (f x)).trans ?_
          rw [← List.append_assoc, ← List.append_assoc]
          exact List.perm_append_comm.append_right _

/-- Replacing a list changes the number of elements in all by the difference of the two lists. -/
theorem length_flatten_set {lists : List (List α)} {old : List α} (h : lists[i]? = some old)
    (new : List α) :
    (lists.set i new).flatten.length + old.length = lists.flatten.length + new.length := by
  induction lists generalizing i with
  | nil => simp at h
  | cons x rest ih =>
      cases i with
      | zero =>
          rw [List.getElem?_cons_zero, Option.some.injEq] at h
          subst h
          simp only [List.set_cons_zero, List.flatten_cons, List.length_append]
          omega
      | succ k =>
          rw [List.getElem?_cons_succ] at h
          have hrest := ih h
          simp only [List.set_cons_succ, List.flatten_cons, List.length_append]
          omega

end Replacing

/-! ## Progress of a scan -/

namespace Scan

variable {compareRow : Nat → List Hit} {dealt : List (List Nat)} {stop : Nat → Bool}
  {turn : Nat → Nat} {first : Nat} {s : Scan}

/-- How far a scan has come that dealt the rows `dealt` and made its first check of a row as number `first`:
    the parts of each worker's rows, and what the hits and the two counters say about them. -/
structure Progress (compareRow : Nat → List Hit) (dealt : List (List Nat)) (stop : Nat → Bool)
    (first : Nat) (parts : List WorkerRows) (s : Scan) : Prop where
  dealt_eq : parts.map WorkerRows.dealt = dealt
  left_eq : parts.map WorkerRows.left = s.pending
  hits_perm : s.hits.flatten.Perm ((parts.flatMap WorkerRows.compared).flatMap compareRow)
  dropped_iff : s.stopped = true ↔ ∃ rows ∈ parts.map WorkerRows.dropped, rows ≠ []
  first_le : first ≤ s.checks
  observed_iff : s.stopped = true ↔ ∃ n, first ≤ n ∧ n < s.checks ∧ stop n = true

/-- At the start every worker has all its rows left. -/
theorem progress_start (compareRow : Nat → List Hit) (dealt : List (List Nat)) (stop : Nat → Bool)
    (first : Nat) :
    Progress compareRow dealt stop first (dealt.map fun rows => ⟨[], rows, []⟩) (start dealt first) where
  dealt_eq := by simp [Function.comp_def, WorkerRows.dealt]
  left_eq := by simp [Function.comp_def, start]
  hits_perm := by simp [start, List.flatMap_map]
  dropped_iff := by simp [start]
  first_le := Nat.le_refl first
  observed_iff := by
    simp only [start, Bool.false_eq_true, false_iff]
    rintro ⟨n, hle, hlt, _⟩
    omega

/-- One more check was made: some check so far said to stop if one did before or this one does. -/
theorem observed_succ {checks : Nat} (hfirst : first ≤ checks) :
    (∃ n, first ≤ n ∧ n < checks + 1 ∧ stop n = true) ↔
      (∃ n, first ≤ n ∧ n < checks ∧ stop n = true) ∨ stop checks = true := by
  constructor
  · rintro ⟨n, hle, hlt, hn⟩
    rcases Nat.lt_succ_iff_lt_or_eq.mp hlt with hbefore | rfl
    · exact Or.inl ⟨n, hle, hbefore, hn⟩
    · exact Or.inr hn
  · rintro (⟨n, hle, hlt, hn⟩ | hn)
    · exact ⟨n, hle, Nat.lt_succ_of_lt hlt, hn⟩
    · exact ⟨checks, hfirst, Nat.lt_succ_self checks, hn⟩

/-- **One turn.** The parts of the worker whose turn it is shift by one row, or its remaining rows are given
    up; the parts of the others stay. -/
theorem Progress.step {parts : List WorkerRows} (h : Progress compareRow dealt stop first parts s)
    {worker : Nat} (hnext : s.next? turn = some worker) :
    ∃ parts', Progress compareRow dealt stop first parts' (s.step compareRow worker (stop s.checks)) ∧
      (s.step compareRow worker (stop s.checks)).rowsLeft < s.rowsLeft := by
  obtain ⟨row, rest, hrows⟩ := mem_busy.mp (mem_busy_of_next? hnext)
  have hpart : ∃ w, parts[worker]? = some w ∧ w.left = row :: rest := by
    rw [← h.left_eq, List.getElem?_map, Option.map_eq_some_iff] at hrows
    exact hrows
  obtain ⟨w, hw, hleft⟩ := hpart
  cases hstop : stop s.checks with
  | true =>
      have hstep : s.step compareRow worker true =
          { s with pending := s.pending.set worker [], checks := s.checks + 1, stopped := true } := by
        simp [Scan.step, hrows]
      have hdropped : w.giveUp ∈ parts.set worker w.giveUp :=
        List.mem_set (List.getElem?_eq_some_iff.mp hw).1 w.giveUp
      have hcompared : w.giveUp.compared = w.compared ++ [] := (List.append_nil _).symm
      rw [hstep]
      refine ⟨parts.set worker w.giveUp, ?_, ?_⟩
      · exact
          { dealt_eq := (map_set_same hw w.dealt_giveUp).trans h.dealt_eq
            left_eq := by rw [List.map_set, h.left_eq]; rfl
            hits_perm := by
              have hsame := (flatMap_set_perm hw hcompared).flatMap_right compareRow
              exact h.hits_perm.trans hsame.symm
            dropped_iff := by
              refine iff_of_true rfl ⟨w.giveUp.dropped, List.mem_map_of_mem hdropped, ?_⟩
              simp [WorkerRows.giveUp, hleft]
            first_le := Nat.le_succ_of_le h.first_le
            observed_iff := iff_of_true rfl ((observed_succ h.first_le).mpr (Or.inr hstop)) }
      · have hfewer := length_flatten_set hrows []
        simp only [List.length_cons, List.length_nil] at hfewer
        simp only [rowsLeft]
        omega
  | false =>
      have hstep : s.step compareRow worker false =
          { s with
            pending := s.pending.set worker rest
            hits := compareRow row :: s.hits
            checks := s.checks + 1 } := by
        simp [Scan.step, hrows]
      have hcompared : (w.advance row rest).compared = w.compared ++ [row] := rfl
      have hdropped : (w.advance row rest).dropped = w.dropped := rfl
      rw [hstep]
      refine ⟨parts.set worker (w.advance row rest), ?_, ?_⟩
      · exact
          { dealt_eq := (map_set_same hw (WorkerRows.dealt_advance hleft)).trans h.dealt_eq
            left_eq := by rw [List.map_set, h.left_eq]; rfl
            hits_perm := by
              have hrow := (flatMap_set_perm hw hcompared).flatMap_right compareRow
              rw [List.flatMap_append, List.flatMap_singleton] at hrow
              rw [List.flatten_cons]
              exact (h.hits_perm.append_left _).trans hrow.symm
            dropped_iff := by
              rw [map_set_same hw hdropped]
              exact h.dropped_iff
            first_le := Nat.le_succ_of_le h.first_le
            observed_iff := by
              rw [h.observed_iff, observed_succ h.first_le, hstop]
              simp }
      · have hfewer := length_flatten_set hrows rest
        simp only [List.length_cons] at hfewer
        simp only [rowsLeft]
        omega

/-- **All turns.** With enough turns the scan comes to a state in which no worker has rows left. By induction
    on the turns, with fewer rows left after each. -/
theorem Progress.runFor {parts : List WorkerRows} (h : Progress compareRow dealt stop first parts s)
    (turn : Nat → Nat) {turns : Nat} (hturns : s.rowsLeft ≤ turns) :
    ∃ parts', Progress compareRow dealt stop first parts' (s.runFor compareRow stop turn turns) ∧
      (s.runFor compareRow stop turn turns).pending.flatten = [] := by
  induction turns generalizing s parts with
  | zero => exact ⟨parts, h, List.length_eq_zero_iff.mp (Nat.le_zero.mp hturns)⟩
  | succ turns ih =>
      cases hnext : s.next? turn with
      | none =>
          simp only [Scan.runFor, hnext]
          exact ⟨parts, h, pending_of_next?_none hnext⟩
      | some worker =>
          obtain ⟨parts', hstep, hfewer⟩ := h.step hnext
          simp only [Scan.runFor, hnext]
          exact ih hstep (by omega)

/-- What the workers have compared is an initial segment of what was dealt to each. -/
theorem Progress.compared_isPrefix {parts : List WorkerRows}
    (h : Progress compareRow dealt stop first parts s) :
    List.Forall₂ (· <+: ·) (parts.map WorkerRows.compared) dealt := by
  rw [← h.dealt_eq, List.forall₂_map_left_iff, List.forall₂_map_right_iff, List.forall₂_same]
  exact fun w _ => List.prefix_append _ _

/-- A scan that is over and was not stopped has compared all rows. -/
theorem Progress.compared_eq {parts : List WorkerRows}
    (h : Progress compareRow dealt stop first parts s) (hover : s.pending.flatten = [])
    (hstopped : s.stopped = false) : parts.map WorkerRows.compared = dealt := by
  rw [← h.dealt_eq]
  refine List.map_congr_left ?_
  intro w hw
  have hleft : w.left = [] := by
    rw [← h.left_eq, List.flatten_eq_nil_iff] at hover
    exact hover w.left (List.mem_map_of_mem hw)
  have hdropped : w.dropped = [] := by
    by_contra hne
    have htrue := h.dropped_iff.mpr ⟨w.dropped, List.mem_map_of_mem hw, hne⟩
    rw [hstopped] at htrue
    exact Bool.false_ne_true htrue
  simp [WorkerRows.dealt, hleft, hdropped]

end Scan

theorem flatten_sublist_of_isPrefix {xs ys : List (List Nat)} (h : List.Forall₂ (· <+: ·) xs ys) :
    xs.flatten.Sublist ys.flatten := by
  induction h with
  | nil => exact List.Sublist.refl _
  | cons hfirst _ ih => exact hfirst.sublist.append ih

/-- Rows of initial segments of what the workers were dealt are rows of the scan, none of them twice. -/
theorem completed_perm {workers rows : Nat} {completed : List (List Nat)}
    (h : List.Forall₂ (· <+: ·) completed (dealRows workers rows)) :
    completed.flatten.Perm ((List.range rows).filter (· ∈ completed.flatten)) := by
  have hdealt := dealRows_perm workers rows
  have hpart := flatten_sublist_of_isPrefix h
  have hnodup : completed.flatten.Nodup := (hdealt.nodup_iff.mpr List.nodup_range).sublist hpart
  apply (List.perm_ext_iff_of_nodup hnodup (List.nodup_range.filter _)).mpr
  intro row
  rw [List.mem_filter, decide_eq_true_eq]
  exact ⟨fun hrow => ⟨hdealt.subset (hpart.subset hrow), hrow⟩, fun hrow => hrow.2⟩

/-! ## Outcomes -/

section Outcomes

variable (options : SimilarityOptions) (kind : DuplicateKind)
  (excluded : Candidate → Candidate → Bool) (candidates : List Candidate)

/-- The groups of all pairs of candidates in order, each with the row that it is found in. -/
def numberedGroups : List (Nat × DuplicateGroup) :=
  (List.range (candidates.length - 1)).flatMap fun row =>
    (rowGroups options kind excluded (candidates.drop row)).map fun g => (row, g)

/-- The groups in some of the rows are those rows, whole and in order. -/
theorem numberedGroups_filter (keep : Nat → Bool) :
    ((numberedGroups options kind excluded candidates).filter fun x => keep x.1).map Prod.snd =
      ((List.range (candidates.length - 1)).filter keep).flatMap
        fun row => rowGroups options kind excluded (candidates.drop row) := by
  unfold numberedGroups
  induction List.range (candidates.length - 1) with
  | nil => rfl
  | cons row rest ih =>
      rw [List.flatMap_cons, List.filter_append, List.map_append, ih]
      cases hkeep : keep row with
      | true => simp [List.filter_map, Function.comp_def, hkeep]
      | false => simp [List.filter_map, Function.comp_def, hkeep]

/-- The numbered groups are those of a scan that is not stopped. -/
theorem scanPairs_numbered {stop : Nat → Bool} (hstop : ∀ n, stop n = false) (session : Session)
    (turn : Nat → Nat) :
    (scanPairs options kind excluded candidates stop session turn).groups =
      (numberedGroups options kind excluded candidates).map Prod.snd := by
  rw [scanPairs_groups options kind excluded candidates hstop, ← rows_eq_orderedPairs]
  have hall := numberedGroups_filter options kind excluded candidates fun _ => true
  simpa using hall.symm

/-- **The groups of a scan that may be stopped.** The scan that goes on after the first check ends with the
    groups of the rows that its workers have compared, and these are all rows unless some check said to
    stop. -/
theorem run_groups (stop : Nat → Bool) (first : Nat) (turn : Nat → Nat) :
    let dealt := dealRows options.workers (candidates.length - 1)
    let scan := (Scan.start dealt first).run (rowHits options excluded candidates) stop turn
    ∃ completed : List (List Nat), List.Forall₂ (· <+: ·) completed dealt ∧
      scan.sortedHits.filterMap (hitGroup? kind candidates) =
        ((numberedGroups options kind excluded candidates).filter
          fun x => x.1 ∈ completed.flatten).map Prod.snd ∧
      (scan.stopped = true ↔ ∃ n, first ≤ n ∧ n < scan.checks ∧ stop n = true) ∧
      (scan.stopped = false → completed = dealt) := by
  intro dealt scan
  obtain ⟨parts, hprogress, hover⟩ :=
    (Scan.progress_start (rowHits options excluded candidates) dealt stop first).runFor turn
      (Nat.le_refl _)
  have hcompleted := hprogress.compared_isPrefix
  refine ⟨parts.map WorkerRows.compared, hcompleted, ?_, hprogress.observed_iff,
    hprogress.compared_eq hover⟩
  have hrows := completed_perm hcompleted
  have hhits := hprogress.hits_perm
  rw [List.flatMap_def (f := WorkerRows.compared)] at hhits
  have hsorted := Scan.sortedHits_eq (hhits.trans (hrows.flatMap_right _))
    (rowHits_before options excluded candidates (List.pairwise_lt_range.filter _))
  unfold scan Scan.run
  rw [hsorted, List.filterMap_flatMap]
  simp only [rowHits_groups]
  exact (numberedGroups_filter options kind excluded candidates fun row =>
    decide (row ∈ (parts.map WorkerRows.compared).flatten)).symm

/-- An outcome that tells what was left out of a scan. The groups of a scan that is not stopped are the
    numbered ones; the outcome has those of the rows that were completed, an initial segment of the rows of
    each worker, and the session is marked as cut short exactly if it was before or a check of this scan
    said to stop. -/
structure HonestOutcome (stop : Nat → Bool) (session : Session) (outcome : ScanOutcome) : Prop where
  unstopped : ∀ session turn,
    (scanPairs options kind excluded candidates (fun _ => false) session turn).groups =
      (numberedGroups options kind excluded candidates).map Prod.snd
  whole_rows : ∃ completed : List (List Nat),
    List.Forall₂ (· <+: ·) completed (dealRows options.workers (candidates.length - 1)) ∧
      outcome.groups = ((numberedGroups options kind excluded candidates).filter
        fun x => x.1 ∈ completed.flatten).map Prod.snd
  sublist : outcome.groups.Sublist ((numberedGroups options kind excluded candidates).map Prod.snd)
  truncated_iff : outcome.session.truncated = true ↔
    session.truncated = true ∨
      ∃ n, session.checks ≤ n ∧ n < outcome.session.checks ∧ stop n = true
  complete : outcome.session.truncated = false →
    outcome.groups = (numberedGroups options kind excluded candidates).map Prod.snd

variable {options kind excluded candidates} {stop : Nat → Bool} {session : Session}

/-- An outcome is honest if it has the completed rows, and all rows when nothing marks it as cut short. -/
theorem HonestOutcome.of_completed {outcome : ScanOutcome} {completed : List (List Nat)}
    (hcompleted : List.Forall₂ (· <+: ·) completed
      (dealRows options.workers (candidates.length - 1)))
    (hgroups : outcome.groups = ((numberedGroups options kind excluded candidates).filter
      fun x => x.1 ∈ completed.flatten).map Prod.snd)
    (htruncated : outcome.session.truncated = true ↔ session.truncated = true ∨
      ∃ n, session.checks ≤ n ∧ n < outcome.session.checks ∧ stop n = true)
    (hall : outcome.session.truncated = false →
      completed = dealRows options.workers (candidates.length - 1)) :
    HonestOutcome options kind excluded candidates stop session outcome where
  unstopped := scanPairs_numbered options kind excluded candidates fun _ => rfl
  whole_rows := ⟨completed, hcompleted, hgroups⟩
  sublist := by
    rw [hgroups]
    exact List.filter_sublist.map Prod.snd
  truncated_iff := htruncated
  complete := by
    intro hfalse
    rw [hgroups, List.filter_eq_self.mpr]
    rintro ⟨row, g⟩ hmem
    unfold numberedGroups at hmem
    obtain ⟨row', hrow, hgroup⟩ := List.mem_flatMap.mp hmem
    obtain ⟨_, _, heq⟩ := List.mem_map.mp hgroup
    rw [Prod.mk.injEq] at heq
    rw [hall hfalse, decide_eq_true_eq, ← heq.1]
    exact (dealRows_perm _ _).symm.subset hrow

/-- Every scan has an honest outcome. -/
theorem scanPairs_honest (turn : Nat → Nat) :
    HonestOutcome options kind excluded candidates stop session
      (scanPairs options kind excluded candidates stop session turn) := by
  unfold scanPairs
  cases hfirst : stop session.checks with
  | true =>
      -- stopped before any work: no worker has completed a row
      simp only [if_true]
      have hnone : List.Forall₂ (· <+: ·)
          ((dealRows options.workers (candidates.length - 1)).map fun _ => ([] : List Nat))
          (dealRows options.workers (candidates.length - 1)) := by
        rw [List.forall₂_map_left_iff, List.forall₂_same]
        exact fun rows _ => List.nil_prefix
      refine .of_completed hnone ?_ ?_ ?_
      · simp
      · exact iff_of_true rfl (Or.inr ⟨session.checks, Nat.le_refl _, Nat.lt_succ_self _, hfirst⟩)
      · intro hfalse
        exact absurd hfalse (by simp)
  | false =>
      simp only [Bool.false_eq_true, if_false]
      have hlater : ∀ bound, (∃ n, session.checks ≤ n ∧ n < bound ∧ stop n = true) ↔
          ∃ n, session.checks + 1 ≤ n ∧ n < bound ∧ stop n = true := by
        intro bound
        constructor
        · rintro ⟨n, hle, hlt, hn⟩
          have hne : n ≠ session.checks := fun heq => by simp [heq, hfirst] at hn
          exact ⟨n, by omega, hlt, hn⟩
        · rintro ⟨n, hle, hlt, hn⟩
          exact ⟨n, by omega, hlt, hn⟩
      split
      · rename_i hfew
        have hrows : candidates.length - 1 = 0 := by omega
        refine .of_completed (List.forall₂_same.mpr fun rows _ => List.prefix_refl rows) ?_ ?_
          fun _ => rfl
        · simp [numberedGroups, hrows]
        · rw [hlater]
          refine ⟨Or.inl, ?_⟩
          rintro (htrue | ⟨n, hle, hlt, _⟩)
          · exact htrue
          · exact absurd hlt (Nat.not_lt.mpr hle)
      · obtain ⟨completed, hcompleted, hgroups, hobserved, hall⟩ :=
          run_groups options kind excluded candidates stop (session.checks + 1) turn
        refine .of_completed hcompleted hgroups ?_ ?_
        · simp only [Bool.or_eq_true, hobserved, hlater]
        · intro hfalse
          exact hall (Bool.or_eq_false_iff.mp hfalse).2

end Outcomes

/-- **A scan that is stopped is honest about it.** Whatever the number of workers, the order of their turns
    and the answers to the checks, the scan of the files and the scan of the blocks after it report whole
    rows only, for each worker the first of the rows that it was dealt, in the order and as part of what an
    unstopped scan reports. The session is marked as cut short from the first check on that said to stop; if
    it is not marked after both scans, both have reported all their groups. -/
theorem stopped_scans_honest (options : SimilarityOptions) (records : List FileRecord)
    (stop : Nat → Bool) (session : Session) (turn : Nat → Nat) :
    let files := similarFiles options records stop session turn
    let blocks := similarBlocks options records stop files.session turn
    HonestOutcome options .similarFile sameContent (fileCandidates options.minTokens records) stop
        session files ∧
      HonestOutcome options .similarBlock sameFileOrText
        (blockCandidates options.minTokens records) stop files.session blocks ∧
      (blocks.session.truncated = false → ∀ session turn,
        files.groups = (similarFiles options records (fun _ => false) session turn).groups ∧
          blocks.groups = (similarBlocks options records (fun _ => false) session turn).groups) := by
  intro files blocks
  have hfiles : HonestOutcome options .similarFile sameContent
      (fileCandidates options.minTokens records) stop session files := scanPairs_honest turn
  have hblocks : HonestOutcome options .similarBlock sameFileOrText
      (blockCandidates options.minTokens records) stop files.session blocks := scanPairs_honest turn
  refine ⟨hfiles, hblocks, ?_⟩
  intro hfalse session' turn'
  -- the mark is never taken back, so it was not there after the first scan either
  have hbefore : files.session.truncated = false := by
    by_contra htrue
    rw [Bool.not_eq_false] at htrue
    rw [hblocks.truncated_iff.mpr (Or.inl htrue)] at hfalse
    exact Bool.false_ne_true hfalse.symm
  exact ⟨(hfiles.complete hbefore).trans (hfiles.unstopped session' turn').symm,
    (hblocks.complete hfalse).trans (hblocks.unstopped session' turn').symm⟩

end CodeCensus
