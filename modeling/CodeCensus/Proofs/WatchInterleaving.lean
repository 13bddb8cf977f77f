import CodeCensus.CommandLine.Run
import CodeCensus.Watch.Loop
import Mathlib.Data.List.Basic

/-!
# Interleavings of a watcher

Events come from one thread and the looks at pending changes from another, and runs go on beside both.
What they do to the watcher they do in locked sections, so a history of the watcher is a sequence of these
sections with any times between them. Beside the watcher's own state a history keeps what happened so far:
which changes were handled and which runs were started, in order.

A run counts as active from the section that claims it to the section that releases it, so its analysis
runs only while it is active.

## Contents
- `WatchAction`, `WatchMark`, `Interleaving` — what can happen, what is kept of it, and a history;
- `startTimes` — when the runs of a log were started;
- `Interleaving.step`, `Interleaving.run` — one action, and any number of them;
- `Interleaving.Move`, `Interleaving.step_moves` — all that one action can do;
- `Interleaving.run_induction` — what every action keeps holds of every history;
- `watchLoop_interleaves` — the watch loop is one of the interleavings.
-/

namespace CodeCensus

/-- Something that happens around a watcher. An event and a look at pending changes read the clock when
    they enter their locked section; it stands at `later` when they read it again to start a run. -/
inductive WatchAction where
  | event (e : FileEvent) (later : Double)
  | flush (later : Double)
  | wait (later : Double)
  | complete (failure : Option String)

namespace WatchAction

/-- Where the clock stands after the action, for an action that takes time. -/
def later? : WatchAction → Option Double
  | event _ later | flush later | wait later => some later
  | complete _ => none

/-- The event that is handled. -/
def event? : WatchAction → Option FileEvent
  | event e _ => some e
  | _ => none

/-- The action handles a change of a relevant file. -/
def isChange (rules : WatchRules) (a : WatchAction) : Bool :=
  a.event?.any fun e => (rules.changedFile? e).isSome

end WatchAction

/-- What is kept of a history: a change that was handled, or a run that was started. -/
inductive WatchMark where
  | change
  | start (time : Double)
  deriving DecidableEq, Repr

/-- The time at which a run was started. -/
def WatchMark.time? : WatchMark → Option Double
  | change => none
  | start time => some time

/-- The times at which the runs of a log were started. -/
def startTimes (log : List WatchMark) : List Double := log.filterMap WatchMark.time?

@[simp] theorem startTimes_snoc_change (log : List WatchMark) :
    startTimes (log ++ [.change]) = startTimes log := by
  simp [startTimes, List.filterMap_cons, WatchMark.time?]

@[simp] theorem startTimes_snoc_start (log : List WatchMark) (t : Double) :
    startTimes (log ++ [.start t]) = startTimes log ++ [t] := by
  simp [startTimes, WatchMark.time?]

/-- A watcher in the middle of a history: its state, its clock, the number of runs that are claimed and
    not yet released, and what happened so far, oldest first. -/
structure Interleaving where
  state : WatchState
  clock : Double
  active : Nat
  log : List WatchMark

namespace Interleaving

/-- A watcher to which nothing has happened. -/
def initial (clock : Double) : Interleaving := ⟨.initial, clock, 0, []⟩

/-- After a locked section that saw `marks` and may have claimed a run. -/
def leave (h : Interleaving) (marks : List WatchMark) (later : Double) (outcome : WatchState × Bool) :
    Interleaving :=
  let started := if outcome.2 then [WatchMark.start outcome.1.lastStart] else []
  ⟨outcome.1, later, h.active + outcome.2.toNat, h.log ++ marks ++ started⟩

/-- One action. A run that is not active cannot complete. -/
def step (rules : WatchRules) (debounce : Number) (h : Interleaving) : WatchAction → Interleaving
  | .event e later =>
    match rules.changedFile? e with
    | none => { h with clock := later }
    | some _ => h.leave [.change] later (h.state.onChange debounce h.clock later)
  | .flush later => h.leave [] later (h.state.onFlush debounce h.clock later)
  | .wait later => { h with clock := later }
  | .complete _ =>
    if h.active = 0 then h else { h with state := h.state.finish, active := h.active - 1 }

/-- Any number of actions. -/
def run (rules : WatchRules) (debounce : Number) (h : Interleaving) (actions : List WatchAction) :
    Interleaving :=
  actions.foldl (step rules debounce) h

/-! ## What an action can do -/

/-- All that one action can do: nothing but take time, keep a change in mind, claim a run for a change or
    for a pending one, or release a run. -/
inductive Move (debounce : Number) (h : Interleaving) : Interleaving → Prop where
  | idle (later : Double) : Move debounce h { h with clock := later }
  | kept (later : Double) :
      Move debounce h ⟨{ h.state with pending := true }, later, h.active, h.log ++ [.change]⟩
  | claimed (later : Double) (marks : List WatchMark) (free : h.state.running = false)
      (due : h.state.tooSoon debounce h.clock = false)
      (cause : marks = [.change] ∨ marks = [] ∧ h.state.pending = true) :
      Move debounce h ⟨.claim later, later, h.active + 1, h.log ++ marks ++ [.start later]⟩
  | released (going : h.active ≠ 0) :
      Move debounce h { h with state := h.state.finish, active := h.active - 1 }

/-- A change is kept in mind or claims a run. -/
theorem leave_onChange_moves (debounce : Number) (h : Interleaving) (later : Double) :
    Move debounce h (h.leave [.change] later (h.state.onChange debounce h.clock later)) := by
  unfold WatchState.onChange leave
  split
  case isTrue busy => simpa using (Move.kept later : Move debounce h _)
  case isFalse ready =>
      rw [Bool.or_eq_true, not_or, Bool.not_eq_true, Bool.not_eq_true] at ready
      exact .claimed later [.change] ready.1 ready.2 (.inl rfl)

/-- A look at pending changes does nothing or claims a run for them. -/
theorem leave_onFlush_moves (debounce : Number) (h : Interleaving) (later : Double) :
    Move debounce h (h.leave [] later (h.state.onFlush debounce h.clock later)) := by
  unfold WatchState.onFlush leave
  split
  case isTrue busy => simpa using (Move.idle later : Move debounce h _)
  case isFalse ready =>
      simp only [Bool.or_eq_true, not_or, Bool.not_eq_true, Bool.not_eq_false'] at ready
      obtain ⟨⟨pending, free⟩, due⟩ := ready
      exact .claimed later [] free due (.inr ⟨rfl, pending⟩)

/-- **Every action is one of the moves.** -/
theorem step_moves (rules : WatchRules) (debounce : Number) (h : Interleaving) (a : WatchAction) :
    Move debounce h (h.step rules debounce a) := by
  cases a with
  | event e later =>
      simp only [step]
      cases rules.changedFile? e with
      | none => exact .idle later
      | some path => exact leave_onChange_moves debounce h later
  | flush later => exact leave_onFlush_moves debounce h later
  | wait later => exact .idle later
  | complete failure =>
      simp only [step]
      split
      case isTrue none => exact .idle h.clock
      case isFalse going => exact .released going

/-- What every move keeps holds of every history. -/
theorem run_induction {P : Interleaving → Prop} {rules : WatchRules} {debounce : Number}
    (hmove : ∀ h h', Move debounce h h' → P h → P h') (actions : List WatchAction) {h : Interleaving}
    (hstart : P h) : P (h.run rules debounce actions) := by
  induction actions generalizing h with
  | nil => exact hstart
  | cons a rest ih => exact ih (hmove h _ (step_moves rules debounce h a) hstart)

/-- **At most one run is active:** one while the watcher says so, and none otherwise. -/
theorem active_eq (rules : WatchRules) (debounce : Number) (clock : Double)
    (actions : List WatchAction) :
    let h := (initial clock).run rules debounce actions
    h.active = h.state.running.toNat := by
  refine run_induction (P := fun h => h.active = h.state.running.toNat) ?_ actions rfl
  intro h h' move hactive
  cases move with
  | idle later => exact hactive
  | kept later => exact hactive
  | claimed later marks free due cause => simp [hactive, free, WatchState.claim]
  | released going =>
      have hle : h.active ≤ 1 := hactive ▸ Bool.toNat_le _
      simp only [WatchState.finish, Bool.toNat_false]
      omega

theorem run_append (rules : WatchRules) (debounce : Number) (h : Interleaving)
    (first second : List WatchAction) :
    h.run rules debounce (first ++ second) =
      (h.run rules debounce first).run rules debounce second :=
  List.foldl_append

/-- A run stays active until it completes. -/
theorem active_le_run {rules : WatchRules} {debounce : Number} {actions : List WatchAction}
    (hcalls : ∀ f, .complete f ∉ actions) (h : Interleaving) :
    h.active ≤ (h.run rules debounce actions).active := by
  induction actions generalizing h with
  | nil => exact Nat.le_refl _
  | cons a rest ih =>
      have hstep : h.active ≤ (h.step rules debounce a).active := by
        cases a with
        | event e later =>
            simp only [step]
            cases rules.changedFile? e with
            | none => exact Nat.le_refl _
            | some path => exact Nat.le_add_right _ _
        | flush later => exact Nat.le_add_right _ _
        | wait later => exact Nat.le_refl _
        | complete f => exact absurd List.mem_cons_self (hcalls f)
      exact Nat.le_trans hstep (ih (fun f hf => hcalls f (List.mem_cons_of_mem _ hf)) _)

end Interleaving

/-! ## The watch loop

The loop handles its events and ticks one after the other, each with the run that it starts. -/

open Interleaving

variable {σ : Type} {rules : WatchRules} {debounce : Number}

/-- What a run does to the watcher it does by events and looks at pending changes. -/
def WatchHost.UsesHandlers (host : WatchHost σ) (rules : WatchRules) (debounce : Number) : Prop :=
  ∀ (h : Interleaving) (world : σ), ∃ actions : List WatchAction,
    (∀ f, .complete f ∉ actions) ∧
      (host.rerun h.state world).1 = (h.run rules debounce actions).state

/-- The runs of a command leave the watcher alone. -/
theorem consoleHost_usesHandlers (plan : Plan) (now : Console → Double) (rules : WatchRules)
    (debounce : Number) : (consoleHost plan now).UsesHandlers rules debounce := by
  intro h world
  refine ⟨[], fun _ => List.not_mem_nil, ?_⟩
  simp only [consoleHost]
  split <;> rfl

/-- From every history that has come to `s` some actions lead to `s'`, the given events among them. -/
def LeadsTo (rules : WatchRules) (debounce : Number) (events : List FileEvent) (s s' : WatchState) :
    Prop :=
  ∀ h : Interleaving, h.state = s → ∃ actions : List WatchAction,
    (h.run rules debounce actions).state = s' ∧
      events.Sublist (actions.filterMap WatchAction.event?)

theorem LeadsTo.refl (s : WatchState) : LeadsTo rules debounce [] s s :=
  fun _ hs => ⟨[], hs, List.nil_sublist _⟩

theorem LeadsTo.trans {first second : List FileEvent} {s₁ s₂ s₃ : WatchState}
    (h₁ : LeadsTo rules debounce first s₁ s₂) (h₂ : LeadsTo rules debounce second s₂ s₃) :
    LeadsTo rules debounce (first ++ second) s₁ s₃ := by
  intro h hs
  obtain ⟨as, has, hfirst⟩ := h₁ h hs
  obtain ⟨bs, hbs, hsecond⟩ := h₂ _ has
  refine ⟨as ++ bs, by rw [run_append, hbs], ?_⟩
  rw [List.filterMap_append]
  exact hfirst.append hsecond

/-- Steps of a loop lead one after the other to where the loop ends. -/
theorem LeadsTo.foldl {α : Type} {f : Watching σ → α → Watching σ} {events : α → List FileEvent}
    (hf : ∀ w a, LeadsTo rules debounce (events a) w.state (f w a).state) (as : List α)
    (w : Watching σ) : LeadsTo rules debounce (as.flatMap events) w.state (as.foldl f w).state := by
  induction as generalizing w with
  | nil => exact .refl _
  | cons a rest ih => exact (hf w a).trans (ih (f w a))

/-- A run that was claimed ends with its release. -/
theorem runAgain_interleaves {host : WatchHost σ} (hhost : host.UsesHandlers rules debounce)
    (what : String) (w : Watching σ) {h : Interleaving} (hstate : h.state = w.state)
    (hactive : h.active ≠ 0) :
    ∃ actions, (h.run rules debounce actions).state = (w.runAgain host what).state := by
  obtain ⟨world, hworld⟩ : ∃ world,
      (w.runAgain host what).state = (host.rerun w.state world).1.finish := ⟨_, rfl⟩
  obtain ⟨actions, hcalls, hrerun⟩ := hhost h world
  have hgoing : (h.run rules debounce actions).active ≠ 0 := by
    have hle : h.active ≤ (h.run rules debounce actions).active := active_le_run hcalls h
    omega
  refine ⟨actions ++ [.complete none], ?_⟩
  rw [run_append, hworld, ← hstate, hrerun]
  change (step rules debounce _ (.complete none)).state = _
  rw [step, if_neg hgoing]

/-- A locked section together with the run that it claims, if it claims one. -/
theorem leave_interleaves {host : WatchHost σ} (hhost : host.UsesHandlers rules debounce)
    (what : String) (w : Watching σ) {h : Interleaving} {a : WatchAction} {marks : List WatchMark}
    {later : Double} {outcome : WatchState × Bool}
    (hstep : h.step rules debounce a = h.leave marks later outcome) :
    ∃ actions, (h.run rules debounce (a :: actions)).state =
      (if outcome.2 then Watching.runAgain host what { w with state := outcome.1 }
        else { w with state := outcome.1 }).state := by
  have hrun (actions : List WatchAction) : h.run rules debounce (a :: actions) =
      (h.leave marks later outcome).run rules debounce actions := by rw [← hstep]; rfl
  obtain ⟨state, started⟩ := outcome
  cases started with
  | false => exact ⟨[], by rw [hrun]; rfl⟩
  | true =>
      obtain ⟨actions, hactions⟩ := runAgain_interleaves hhost what { w with state }
        (h := h.leave marks later (state, true)) rfl (Nat.succ_ne_zero _)
      exact ⟨actions, by rw [hrun, hactions]; rfl⟩

theorem onEvent_leadsTo {host : WatchHost σ} (hhost : host.UsesHandlers rules debounce)
    (e : FileEvent) (w : Watching σ) :
    LeadsTo rules debounce [e] w.state (w.onEvent host rules debounce e).state := by
  intro h hs
  -- the loop reads its clock once, so the history first waits for that time
  set now := host.now w.world
  set h' := h.step rules debounce (.wait now) with hh'
  cases hpath : rules.changedFile? e with
  | none =>
      refine ⟨[.event e now], ?_, by simp [WatchAction.event?]⟩
      simp [run, step, Watching.onEvent, hpath, hs]
  | some path =>
      have hstep : h'.step rules debounce (.event e now) =
          h'.leave [.change] now (w.state.onChange debounce now now) := by
        simp only [step, hpath, hh', hs]
      obtain ⟨actions, hactions⟩ := leave_interleaves hhost path.text w hstep
      refine ⟨.wait now :: .event e now :: actions, hactions.trans ?_, ?_⟩
      · simp only [Watching.onEvent, hpath]
        rfl
      · simp [WatchAction.event?]

theorem flush_leadsTo {host : WatchHost σ} (hhost : host.UsesHandlers rules debounce)
    (w : Watching σ) : LeadsTo rules debounce [] w.state (w.flush host debounce).state := by
  intro h hs
  set now := host.now w.world
  set h' := h.step rules debounce (.wait now) with hh'
  have hstep : h'.step rules debounce (.flush now) =
      h'.leave [] now (w.state.onFlush debounce now now) := by
    simp only [step, hh', hs]
  obtain ⟨actions, hactions⟩ := leave_interleaves hhost "multiple files" w hstep
  exact ⟨.wait now :: .flush now :: actions, hactions, List.nil_sublist _⟩

/-- The events of an action between two ticks. -/
def TickAction.events : TickAction σ → List FileEvent
  | event e => [e]
  | change _ => []

theorem tick_leadsTo {host : WatchHost σ} (hhost : host.UsesHandlers rules debounce)
    (w : Watching σ) (actions : List (TickAction σ)) :
    LeadsTo rules debounce (actions.flatMap TickAction.events) w.state
      (w.tick host rules debounce actions).state := by
  have hact (w : Watching σ) (a : TickAction σ) :
      LeadsTo rules debounce a.events w.state (w.act host rules debounce a).state := by
    cases a with
    | event e => exact onEvent_leadsTo hhost e w
    | change update => exact .refl _
  have htick := (LeadsTo.foldl hact actions w).trans (flush_leadsTo hhost _)
  rwa [List.append_nil] at htick

/-- **The watch loop is an interleaving.** Wherever it ends, a history with all its events leads there. -/
theorem watchLoop_interleaves {host : WatchHost σ} (hhost : host.UsesHandlers rules debounce)
    (ticks : List (List (TickAction σ))) (world : σ) (clock : Double) :
    ∃ actions, ((initial clock).run rules debounce actions).state =
        (watchLoop host rules debounce ticks world).state ∧
      (ticks.flatMap (·.flatMap TickAction.events)).Sublist
        (actions.filterMap WatchAction.event?) := by
  obtain ⟨began, hbegan⟩ : ∃ began, (watchLoop host rules debounce ticks world).state =
      (ticks.foldl (Watching.tick host rules debounce) ⟨.initial, began⟩).state := ⟨_, rfl⟩
  rw [hbegan]
  exact LeadsTo.foldl (tick_leadsTo hhost) ticks ⟨.initial, began⟩ (initial clock) rfl

end CodeCensus
