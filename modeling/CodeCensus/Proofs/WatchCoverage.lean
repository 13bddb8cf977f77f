import CodeCensus.Proofs.NumberValue
import CodeCensus.Proofs.WatchInterleaving

/-!
# No change is lost

A run takes care of every change that was handled before it was started. So a change is *uncovered* while no
run has been started after it, and the watcher's one pending flag has to say whether there is such a
change, however events, looks at pending changes and runs interleave.

## Contents
- `Uncovered` — a log ends with changes that no run has seen;
- `StartsCaused` — every start has a new change before it;
- `Interleaving.Accounted` — the invariant, with `Move.accounted` for a step and `run_accounted` for a
  whole history;
- `no_change_is_lost` — the pending flag is exact, runs have causes, and a timely look leaves nothing.
-/

namespace CodeCensus

/-- Some change was handled with no run started after it. -/
def Uncovered (log : List WatchMark) : Prop :=
  ∃ before after, log = before ++ .change :: after ∧ ∀ t, .start t ∉ after

/-- Only changes follow an uncovered change, so the log ends with one. -/
theorem uncovered_iff {log : List WatchMark} : Uncovered log ↔ log.getLast? = some .change := by
  constructor
  · rintro ⟨before, after, rfl, hafter⟩
    rcases List.eq_nil_or_concat after with rfl | ⟨front, mark, rfl⟩
    · exact List.getLast?_concat
    · have hlast : (before ++ .change :: front.concat mark).getLast? = some mark := by
        rw [List.concat_eq_append, ← List.cons_append, ← List.append_assoc, List.getLast?_concat]
      cases mark with
      | change => exact hlast
      | start t => exact absurd (by simp) (hafter t)
  · intro hlast
    obtain ⟨before, rfl⟩ := List.getLast?_eq_some_iff.mp hlast
    exact ⟨before, [], rfl, fun _ => List.not_mem_nil⟩

instance (log : List WatchMark) : Decidable (Uncovered log) :=
  decidable_of_iff _ uncovered_iff.symm

@[simp] theorem uncovered_snoc_change (log : List WatchMark) : Uncovered (log ++ [.change]) := by
  rw [uncovered_iff, List.getLast?_concat]

@[simp] theorem not_uncovered_snoc_start (log : List WatchMark) (t : Double) :
    ¬ Uncovered (log ++ [.start t]) := by
  rw [uncovered_iff, List.getLast?_concat]
  simp

/-- Before every start there is a change that no earlier run took care of. -/
def StartsCaused (log : List WatchMark) : Prop :=
  ∀ before t after, log = before ++ .start t :: after → Uncovered before

/-- A log stays so with a mark at its end that is a change, or a start after an uncovered change. -/
theorem StartsCaused.snoc {log : List WatchMark} (hlog : StartsCaused log) {mark : WatchMark}
    (hmark : ∀ t, mark = .start t → Uncovered log) : StartsCaused (log ++ [mark]) := by
  intro before t after hsplit
  rcases List.eq_nil_or_concat after with rfl | ⟨front, last, rfl⟩
  · obtain ⟨rfl, hlast⟩ := List.append_inj' hsplit rfl
    exact hmark t (List.singleton_inj.mp hlast)
  · -- the start stands before the end of the longer log, so it is one of the shorter log
    have hfront : log ++ [mark] = (before ++ .start t :: front) ++ [last] := by simpa using hsplit
    exact hlog before t front (List.append_inj' hfront rfl).1

namespace Interleaving

/-- The pending flag is exact, and there is a change for every start and for the flag. -/
structure Accounted (h : Interleaving) : Prop where
  pending_iff : h.state.pending = true ↔ Uncovered h.log
  caused : StartsCaused h.log
  starts_le : (startTimes h.log).length + h.state.pending.toNat ≤ h.log.count .change

theorem initial_accounted (clock : Double) : (initial clock).Accounted where
  pending_iff := by simp [initial, WatchState.initial, uncovered_iff]
  caused := fun before t after hsplit => by simp [initial] at hsplit
  starts_le := Nat.le_refl 0

/-- A change that is kept in mind stays in the account. -/
theorem Accounted.kept {h : Interleaving} (hh : h.Accounted) (later : Double) :
    Accounted ⟨{ h.state with pending := true }, later, h.active, h.log ++ [.change]⟩ where
  pending_iff := by simp
  caused := hh.caused.snoc (by simp)
  starts_le := by
    have hle : (startTimes h.log).length ≤ h.log.count .change := Nat.le_of_add_right_le hh.starts_le
    simpa using hle

/-- A run that is started for a pending change leaves none, and the change is the cause of the run. -/
theorem Accounted.claimed {h : Interleaving} (hh : h.Accounted) (pending : h.state.pending = true)
    (later : Double) (active : Nat) :
    Accounted ⟨.claim later, later, active, h.log ++ [.start later]⟩ where
  pending_iff := by simp [WatchState.claim]
  caused := hh.caused.snoc fun _ _ => hh.pending_iff.mp pending
  starts_le := by
    have hle := hh.starts_le
    rw [pending] at hle
    simpa [WatchState.claim] using hle

/-- Every move keeps the account. -/
theorem Move.accounted {debounce : Number} {h h' : Interleaving} (move : Move debounce h h')
    (hh : h.Accounted) : h'.Accounted := by
  cases move with
  | idle later => exact ⟨hh.pending_iff, hh.caused, hh.starts_le⟩
  | kept later => exact hh.kept later
  | claimed later marks free due cause =>
      rcases cause with rfl | ⟨rfl, pending⟩
      · -- a change that claims a run is a pending change for which the run is started at once
        exact (hh.kept later).claimed rfl later _
      · rw [List.append_nil]
        exact hh.claimed pending later _
  | released going => exact ⟨hh.pending_iff, hh.caused, hh.starts_le⟩

theorem run_accounted (rules : WatchRules) (debounce : Number) (clock : Double)
    (actions : List WatchAction) : ((initial clock).run rules debounce actions).Accounted :=
  run_induction (fun _ _ move => move.accounted) actions (initial_accounted clock)

/-- One action logs one change if it handles one, and none otherwise. -/
theorem count_change_step (rules : WatchRules) (debounce : Number) (h : Interleaving)
    (a : WatchAction) :
    (h.step rules debounce a).log.count .change =
      h.log.count .change + (a.isChange rules).toNat := by
  -- a start that may follow is no change
  have hleave (marks : List WatchMark) (later : Double) (outcome : WatchState × Bool) :
      (h.leave marks later outcome).log.count .change = h.log.count .change + marks.count .change := by
    simp only [leave]
    split <;> simp
  cases a with
  | event e later =>
      simp only [step]
      cases hpath : rules.changedFile? e with
      | none => simp [WatchAction.isChange, WatchAction.event?, hpath]
      | some path => simp [WatchAction.isChange, WatchAction.event?, hpath, hleave]
  | flush later => simp [step, WatchAction.isChange, WatchAction.event?, hleave]
  | wait later => rfl
  | complete failure =>
      simp only [step]
      split <;> rfl

/-- **The log holds one change for every relevant event.** -/
theorem count_change_run (rules : WatchRules) (debounce : Number) (h : Interleaving)
    (actions : List WatchAction) :
    (h.run rules debounce actions).log.count .change =
      h.log.count .change + actions.countP (·.isChange rules) := by
  induction actions generalizing h with
  | nil => rfl
  | cons a rest ih =>
      change ((h.step rules debounce a).run rules debounce rest).log.count .change = _
      rw [ih, count_change_step, List.countP_cons]
      cases a.isChange rules with
      | false => rfl
      | true => simp only [Bool.toNat_true, if_true]; omega

/-- A look at pending changes that may start a run leaves no change uncovered. -/
theorem Accounted.flush_covers {h : Interleaving} (hh : h.Accounted) {rules : WatchRules}
    {debounce : Number} (free : h.state.running = false)
    (due : h.state.tooSoon debounce h.clock = false) (later : Double) :
    ¬ Uncovered (h.step rules debounce (.flush later)).log := by
  cases pending : h.state.pending with
  | false =>
      have hcovered : ¬ Uncovered h.log := fun hlog => by simpa [pending] using hh.pending_iff.mpr hlog
      simpa [step, leave, WatchState.onFlush, pending] using hcovered
  | true => simp [step, leave, WatchState.onFlush, pending, free, due]

end Interleaving

/-- **No change is lost, and no run is for nothing.** However relevant and other events, looks at pending
    changes, waits and the ends of runs interleave:
    - the pending flag is set exactly while some change was handled after the last start;
    - every change is followed by a start or still pending;
    - every start has a change that was handled after the start before it;
    - there are at most as many starts as relevant events;
    - a look at pending changes that comes while no run is active and late enough after the last start
      leaves no change uncovered. -/
theorem no_change_is_lost (rules : WatchRules) (debounce : Number) (clock : Double)
    (actions : List WatchAction) :
    let h := (Interleaving.initial clock).run rules debounce actions
    (h.state.pending = true ↔ Uncovered h.log) ∧
      (∀ before after, h.log = before ++ .change :: after →
        (∃ t, .start t ∈ after) ∨ h.state.pending = true) ∧
      (∀ before t after, h.log = before ++ .start t :: after → Uncovered before) ∧
      (startTimes h.log).length ≤ actions.countP (·.isChange rules) ∧
      (∀ later, h.active = 0 → debounce.le (.double (h.clock - h.state.lastStart)) = true →
        ¬ Uncovered (h.step rules debounce (.flush later)).log) := by
  intro h
  have hh : h.Accounted := Interleaving.run_accounted rules debounce clock actions
  refine ⟨hh.pending_iff, ?_, hh.caused, ?_, ?_⟩
  · intro before after hlog
    by_contra! hlost
    exact hlost.2 (hh.pending_iff.mpr ⟨before, after, hlog, hlost.1⟩)
  · calc (startTimes h.log).length
        ≤ h.log.count .change := Nat.le_of_add_right_le hh.starts_le
      _ = 0 + actions.countP (·.isChange rules) :=
          Interleaving.count_change_run rules debounce (.initial clock) actions
      _ = actions.countP (·.isChange rules) := Nat.zero_add _
  · intro later hidle hlate
    have free : h.state.running = false := by
      have hactive := Interleaving.active_eq rules debounce clock actions
      simpa using hactive.symm.trans hidle
    exact hh.flush_covers free (Number.lt_eq_false_of_le hlate) later

end CodeCensus
