import CodeCensus.Proofs.NumberValue
import CodeCensus.Proofs.WatchInterleaving
import Mathlib.Data.List.Chain

/-!
# One run at a time, and not too often

The watcher decides by one reading of the clock that a run may start, and a second reading becomes the time
of the start. When the clock never goes back the second is no earlier, and rounding keeps the order of the
two differences (`Number.sub_lt_eq_false_of_le`), so the times of two starts in a row are as far apart as
the watcher's rule wants them, by its own measure.

## Contents
- `ClockForward` — a clock that never goes back;
- `Interleaving.Spaced` — the invariant, with `Move.spaced` for a step and `run_spaced` for a history;
- `WatchHost.endingWith` — a host whose runs end otherwise;
- `runs_alone_and_apart` — runs do not overlap, keep their distance and are always released.
-/

namespace CodeCensus

/-- The clock stands at `clock` first and never goes back while the actions happen. -/
def ClockForward (clock : Double) (actions : List WatchAction) : Prop :=
  (clock :: actions.filterMap WatchAction.later?).IsChain fun t t' =>
    (Number.double t).le (.double t') = true

instance (clock : Double) (actions : List WatchAction) : Decidable (ClockForward clock actions) :=
  inferInstanceAs (Decidable (List.IsChain _ _))

namespace Interleaving

/-- No start came too soon after the one before, and the watcher knows the time of the last one. -/
structure Spaced (debounce : Number) (h : Interleaving) : Prop where
  apart : (startTimes h.log).IsChain fun t t' => (Number.double (t' - t)).lt debounce = false
  last : ∀ t ∈ (startTimes h.log).getLast?, t = h.state.lastStart

/-- Every move keeps the starts apart, if the clock does not go back in it. -/
theorem Move.spaced {debounce : Number} {h h' : Interleaving} (move : Move debounce h h')
    (hclock : (Number.double h.clock).le (.double h'.clock) = true) (hh : h.Spaced debounce) :
    h'.Spaced debounce := by
  cases move with
  | idle later => exact ⟨hh.apart, hh.last⟩
  | kept later =>
      constructor
      · rw [startTimes_snoc_change]
        exact hh.apart
      · rw [startTimes_snoc_change]
        exact hh.last
  | claimed later marks free due cause =>
      have hmarks : startTimes (h.log ++ marks) = startTimes h.log := by
        rcases cause with rfl | ⟨rfl, -⟩ <;> simp
      constructor
      · rw [startTimes_snoc_start, hmarks]
        refine hh.apart.append (List.isChain_singleton _) ?_
        intro t ht t' ht'
        obtain rfl : later = t' := by simpa using ht'
        rw [hh.last t ht]
        -- the watcher decided by the earlier reading of the clock
        exact Number.sub_lt_eq_false_of_le hclock due
      · rw [startTimes_snoc_start, List.getLast?_concat]
        intro t ht
        exact (Option.some.inj ht).symm
  | released going => exact ⟨hh.apart, hh.last⟩

/-- The clock after an action. -/
theorem step_clock (rules : WatchRules) (debounce : Number) (h : Interleaving) (a : WatchAction) :
    (h.step rules debounce a).clock = a.later?.getD h.clock := by
  cases a with
  | event e later =>
      simp only [step]
      cases rules.changedFile? e <;> rfl
  | flush later => rfl
  | wait later => rfl
  | complete failure =>
      simp only [step]
      split <;> rfl

/-- A completion starts nothing. -/
theorem complete_spaced {debounce : Number} {h : Interleaving} (hh : h.Spaced debounce)
    (rules : WatchRules) (failure : Option String) :
    (h.step rules debounce (.complete failure)).Spaced debounce := by
  simp only [step]
  split
  case isTrue none => exact hh
  case isFalse going => exact ⟨hh.apart, hh.last⟩

/-- **Starts stay apart along every history** with a clock that never goes back. -/
theorem run_spaced {rules : WatchRules} {debounce : Number} {actions : List WatchAction}
    {h : Interleaving} (hclock : ClockForward h.clock actions) (hh : h.Spaced debounce) :
    (h.run rules debounce actions).Spaced debounce := by
  induction actions generalizing h with
  | nil => exact hh
  | cons a rest ih =>
      have hstep := step_clock rules debounce h a
      unfold ClockForward at hclock
      cases hlater : a.later? with
      | none =>
          obtain ⟨failure, rfl⟩ : ∃ failure, a = .complete failure := by
            cases a with
            | complete failure => exact ⟨failure, rfl⟩
            | _ => cases hlater
          rw [List.filterMap_cons_none hlater] at hclock
          rw [hlater, Option.getD_none] at hstep
          exact ih (hstep ▸ hclock) (complete_spaced hh rules failure)
      | some later =>
          rw [List.filterMap_cons_some hlater, List.isChain_cons_cons] at hclock
          rw [hlater, Option.getD_some] at hstep
          have hmove := step_moves rules debounce h a
          exact ih (hstep ▸ hclock.2) (hmove.spaced (hstep ▸ hclock.1) hh)

theorem initial_spaced (debounce : Number) (clock : Double) : (initial clock).Spaced debounce where
  apart := List.IsChain.nil
  last := fun _ ht => nomatch ht

end Interleaving

/-- The host with other ends of its runs: what they do is the same, but not whether they fail. -/
def WatchHost.endingWith {σ : Type} (host : WatchHost σ) (ending : WatchState → σ → Option String) :
    WatchHost σ :=
  { host with
    rerun := fun state world =>
      ((host.rerun state world).1, (host.rerun state world).2.1, ending state world) }

/-- Times that are not measured as too close are far enough apart, if they are finite and the distance is a
    number at all. -/
theorem le_sub_of_apart {debounce : Number} (hdebounce : ∀ mark, debounce ≠ .double (.nan mark))
    {t t' : Double} (ht : t.isFinite = true) (ht' : t'.isFinite = true)
    (hapart : (Number.double (t' - t)).lt debounce = false) :
    debounce.le (.double (t' - t)) = true := by
  obtain ⟨bound, hbound⟩ : ∃ bound, debounce.value? = some bound := by
    match debounce, hdebounce with
    | .int n, _ => exact ⟨_, rfl⟩
    | .double (.nan mark), hnumber => exact absurd rfl (hnumber mark)
    | .double (.infinite s), _ => exact ⟨_, rfl⟩
    | .double (.finite s m e), _ => exact ⟨_, rfl⟩
  match t, t', ht, ht' with
  | .finite s m e, .finite s' m' e', _, _ =>
      have hvalue : (Number.double (.finite s' m' e' - .finite s m e)).value? = _ :=
        Double.finite_sub_value? s' m' e' s m e
      exact (Number.le_iff_lt_eq_false hvalue hbound).mpr hapart

/-- **Runs do not overlap, keep their distance, and are always released.** With a clock that never goes back,
    however events, looks at pending changes and the ends of runs interleave:
    - at most one run is active, and one is exactly while the watcher says so;
    - no start is measured as too soon after the one before it, so that finite times of starts in a row
      differ by at least the debounce time, and the watcher remembers the time of the last one;
    - when a run completes the watcher is free again, in the same state whether the run failed or not;
    - so it is for the analysis that a host runs, whatever it does. -/
theorem runs_alone_and_apart (rules : WatchRules) (debounce : Number) (clock : Double)
    (actions : List WatchAction) (hclock : ClockForward clock actions) :
    let h := (Interleaving.initial clock).run rules debounce actions
    (h.active ≤ 1 ∧ (h.active = 1 ↔ h.state.running = true)) ∧
      ((startTimes h.log).IsChain (fun t t' => (Number.double (t' - t)).lt debounce = false) ∧
        ((∀ mark, debounce ≠ .double (.nan mark)) →
          (∀ t ∈ startTimes h.log, t.isFinite = true) →
          (startTimes h.log).IsChain fun t t' => debounce.le (.double (t' - t)) = true) ∧
        ∀ t ∈ (startTimes h.log).getLast?, t = h.state.lastStart) ∧
      (∀ failure, (h.step rules debounce (.complete failure)).state.running = false ∧
        h.step rules debounce (.complete failure) = h.step rules debounce (.complete none)) ∧
      ∀ (σ : Type) (host : WatchHost σ) (ending : WatchState → σ → Option String) (what : String)
        (w : Watching σ),
        (w.runAgain host what).state.running = false ∧
          (w.runAgain (host.endingWith ending) what).state = (w.runAgain host what).state := by
  intro h
  have hactive : h.active = h.state.running.toNat :=
    Interleaving.active_eq rules debounce clock actions
  have hspaced : h.Spaced debounce :=
    Interleaving.run_spaced hclock (Interleaving.initial_spaced debounce clock)
  refine ⟨⟨hactive ▸ Bool.toNat_le _, ?_⟩, ⟨hspaced.apart, ?_, hspaced.last⟩, ?_, ?_⟩
  · rw [hactive]
    cases h.state.running <;> simp
  · intro hdebounce hfinite
    refine hspaced.apart.imp_of_mem_imp ?_
    intro t t' ht ht'
    exact le_sub_of_apart hdebounce (hfinite t ht) (hfinite t' ht')
  · intro failure
    refine ⟨?_, rfl⟩
    simp only [Interleaving.step]
    split
    case isTrue hidle => simpa using hactive.symm.trans hidle
    case isFalse hgoing => rfl
  · intro σ host ending what w
    exact ⟨rfl, rfl⟩

/-- Two runs: a change during the first one, which fails, waits for the second. -/
theorem runs_alone_and_apart_after_failure :
    let rules : WatchRules := ⟨⟨.root, ["work"]⟩, fun _ => true, []⟩
    let saved : FileEvent := ⟨.modified, ⟨.root, ["work", "notes"]⟩, none, false⟩
    let actions : List WatchAction :=
      [.event saved (.ofInt 1), .event saved (.ofInt 2), .complete (some "broken"), .flush (.ofInt 2),
        .wait (.ofInt 8), .flush (.ofInt 9)]
    let h := (Interleaving.initial (.ofInt 1)).run rules (.int 5) actions
    ClockForward (.ofInt 1) actions ∧ startTimes h.log = [.ofInt 1, .ofInt 9] ∧ h.active ≤ 1 ∧
      (startTimes h.log).IsChain fun t t' => (Number.int 5).le (.double (t' - t)) = true := by
  intro rules saved actions h
  have hclock : ClockForward (.ofInt 1) actions := by decide
  have hstarts : startTimes h.log = [.ofInt 1, .ofInt 9] := by decide
  obtain ⟨hactive, hspaced, -⟩ := runs_alone_and_apart rules (.int 5) (.ofInt 1) actions hclock
  refine ⟨hclock, hstarts, hactive.1, hspaced.2.1 (fun _ => nofun) ?_⟩
  rw [hstarts]
  decide

end CodeCensus
