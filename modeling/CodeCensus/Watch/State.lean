import CodeCensus.Number.Basic

/-!
# When to run again

A watched workspace is analysed again when a file in it changes, but never twice at once and never sooner
than a set time after the last run was started. Changes that come too early are kept in mind as one
pending change.

Contents: `WatchState`, `WatchState.onChange`, `WatchState.onFlush`, `WatchState.finish`.
-/

namespace CodeCensus

/-- Whether a run is going on, whether a change waits for one, and when the last run was started. -/
structure WatchState where
  running : Bool
  pending : Bool
  lastStart : Double
  deriving DecidableEq, Repr

namespace WatchState

/-- The state before anything has changed. -/
def initial : WatchState := ⟨false, false, .infinite true⟩

/-- The time since the last start is shorter than it has to be. -/
def tooSoon (s : WatchState) (debounce : Number) (now : Double) : Bool :=
  (Number.double (now - s.lastStart)).lt debounce

/-- Starts a run, which takes care of every change so far. -/
def claim (now : Double) : WatchState := ⟨true, false, now⟩

/-- A change of a relevant file: a run is started, or the change is kept in mind. The clock is read once
    for the decision and once for the start. Tells whether a run was started. -/
def onChange (s : WatchState) (debounce : Number) (now startedAt : Double) : WatchState × Bool :=
  if s.running || s.tooSoon debounce now then ({ s with pending := true }, false)
  else (claim startedAt, true)

/-- Starts a run for a pending change, if it may start now. Tells whether it was started. -/
def onFlush (s : WatchState) (debounce : Number) (now startedAt : Double) : WatchState × Bool :=
  if !s.pending || s.running || s.tooSoon debounce now then (s, false) else (claim startedAt, true)

/-- The run is over, however it ended. -/
def finish (s : WatchState) : WatchState := { s with running := false }

end WatchState
end CodeCensus
