import CodeCensus.Notice
import CodeCensus.Watch.Event
import CodeCensus.Watch.State

/-!
# Watching a workspace

The watch loop: file events and the ticks of a timer start runs by the rules of `WatchState`. What a run
does, how messages are shown and what time it is belong to the host, whose state is a parameter.

Contents:
* `WatchMessage`, `ObserverCall` — what the loop says and asks for;
* `WatchHost`, `Watching` — the host, and the state of a loop with it;
* `Watching.onEvent`, `Watching.flush`, `watchLoop`.
-/

namespace CodeCensus

/-- What a watch loop says. -/
inductive WatchMessage where
  | watching (root : Path)
  | howToStop
  | changed (what : String)
  | rerunning
  | done
  | failed (message : String)
  | stopping
  deriving Repr

/-- The wording of a message. -/
def WatchMessage.text : WatchMessage → String
  | watching root => "[watch] Watching " ++ root.text ++ " for changes..."
  | howToStop => "[watch] Press Ctrl+C to stop"
  | changed what => "[watch] File changed: " ++ what
  | rerunning => "[watch] Re-running analysis..."
  | done => "[watch] Done. Waiting for changes..."
  | failed message => "[watch] Error: " ++ message
  | stopping => "[watch] Stopping..."

/-- What is logged beside a message: a run that failed. -/
def WatchMessage.notices : WatchMessage → List Notice
  | failed _ => [.rerunFailed]
  | _ => []

/-- What a watch loop asks of the observer of the file system. -/
inductive ObserverCall where
  | schedule (root : Path) (below : Bool)
  | start
  | stop
  | join
  deriving Repr

/-- The surroundings of a watch loop: its clock, its messages, its observer, and the analysis that is run
    again. A run may see new events, which change the state of the watcher, and may fail with a message. -/
structure WatchHost (σ : Type) where
  now : σ → Double
  say : WatchMessage → σ → σ
  observe : ObserverCall → σ → σ
  rerun : WatchState → σ → WatchState × σ × Option String

/-- A watcher and the state of its host. -/
structure Watching (σ : Type) where
  state : WatchState
  world : σ

namespace Watching

variable {σ : Type}

/-- Says something. -/
def say (host : WatchHost σ) (m : WatchMessage) (w : Watching σ) : Watching σ :=
  { w with world := host.say m w.world }

/-- Asks something of the observer. -/
def observe (host : WatchHost σ) (call : ObserverCall) (w : Watching σ) : Watching σ :=
  { w with world := host.observe call w.world }

/-- Runs the analysis that has been started, and tells how it went. -/
def runAgain (host : WatchHost σ) (what : String) (w : Watching σ) : Watching σ :=
  let w := (w.say host (.changed what)).say host .rerunning
  let (state, world, failure) := host.rerun w.state w.world
  let last := match failure with
    | none => WatchMessage.done
    | some message => .failed message
  let w := (Watching.mk state world).say host last
  { w with state := w.state.finish }

/-- Handles an event. -/
def onEvent (host : WatchHost σ) (rules : WatchRules) (debounce : Number) (e : FileEvent)
    (w : Watching σ) : Watching σ :=
  match rules.changedFile? e with
  | none => w
  | some path =>
    let now := host.now w.world
    let (state, started) := w.state.onChange debounce now now
    let w := { w with state }
    if started then w.runAgain host path.text else w

/-- Runs for a pending change, if it may run now. -/
def flush (host : WatchHost σ) (debounce : Number) (w : Watching σ) : Watching σ :=
  let now := host.now w.world
  let (state, started) := w.state.onFlush debounce now now
  let w := { w with state }
  if started then w.runAgain host "multiple files" else w

end Watching

/-- What happens between two ticks: an event, or a change of the surroundings. -/
inductive TickAction (σ : Type) where
  | event (e : FileEvent)
  | change (update : σ → σ)

/-- The action of a tick. -/
def Watching.act {σ : Type} (host : WatchHost σ) (rules : WatchRules) (debounce : Number)
    (w : Watching σ) : TickAction σ → Watching σ
  | .event e => w.onEvent host rules debounce e
  | .change update => { w with world := update w.world }

/-- One tick: its actions, then a look at pending changes. -/
def Watching.tick {σ : Type} (host : WatchHost σ) (rules : WatchRules) (debounce : Number)
    (w : Watching σ) (actions : List (TickAction σ)) : Watching σ :=
  (actions.foldl (·.act host rules debounce ·) w).flush host debounce

/-- Watches until the ticks are over, which is when the user stops the loop. -/
def watchLoop {σ : Type} (host : WatchHost σ) (rules : WatchRules) (debounce : Number)
    (ticks : List (List (TickAction σ))) (world : σ) : Watching σ :=
  let w : Watching σ := ⟨.initial, world⟩
  let w := (w.observe host (.schedule rules.root true)).observe host .start
  let w := (w.say host (.watching rules.root)).say host .howToStop
  let w := ticks.foldl (·.tick host rules debounce ·) w
  ((w.say host .stopping).observe host .stop).observe host .join

end CodeCensus
