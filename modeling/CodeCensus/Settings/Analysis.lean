import CodeCensus.Notice
import CodeCensus.Settings.Threshold

/-!
# Settings of an analysis

A run is settled by its workspace, its thresholds, the number of workers, a time limit and whether
hopeless pairs are left out. Settings are read from loosely typed values; the first fault wins, in the
order thresholds, workers, time limit, workspace.

Contents: `Settings`, `Settings.maxWorkers`, `readThresholds`, `Settings.read`.
-/

namespace CodeCensus

/-- Everything that settles a run. -/
structure Settings where
  workspace : Path
  thresholds : Thresholds
  workers : Option Nat
  timeout : Option Number
  prune : Bool

/-- The number of workers: the one that is set, or else all processors, as far as their number is known. -/
def Settings.maxWorkers (settings : Settings) (processors : Nat) : Nat :=
  match settings.workers with
  | some (n + 1) => n + 1
  | _ => max 1 processors

/-- Loosely typed settings. -/
structure RawSettings where
  workspace : Value
  thresholds : Value := .null
  workers : Value := .null
  timeout : Value := .null
  prune : Value := .bool true

/-- Reads threshold entries in order, on top of `t`. An unknown key is noted and passed over; the first
    bad value ends the reading. -/
def readThresholds : List (Value × Value) → Thresholds → List Notice × Except SettingsError Thresholds
  | [], t => ([], .ok t)
  | (key, value) :: rest, t =>
    match ThresholdKey.ofValue? key with
    | none =>
      let (notices, result) := readThresholds rest t
      (.unknownThreshold key :: notices, result)
    | some k =>
      match checkThreshold k value with
      | .error e => ([], .error e)
      | .ok n => readThresholds rest (t.set k n)

/-- The entries of a thresholds value. -/
def thresholdEntries : Value → Except SettingsError (List (Value × Value))
  | .null => .ok []
  | .map entries => .ok entries
  | given => .error (.notMapping given)

/-- The number of workers: nothing, or a positive integer. -/
def readWorkers : Value → Except SettingsError (Option Nat)
  | .null => .ok none
  | .int n => if 1 ≤ n then .ok (some n.toNat) else .error (.badWorkers (.int n))
  | given => .error (.badWorkers given)

/-- The time limit: nothing, or a positive number. -/
def readTimeout : Value → Except SettingsError (Option Number)
  | .null => .ok none
  | .int n => if 0 < n then .ok (some (.int n)) else .error (.badTimeout (.int n))
  | .float x =>
    if x.compareInt? 0 == some .gt then .ok (some (.double x)) else .error (.badTimeout (.float x))
  | given => .error (.badTimeout given)

/-- The workspace path. -/
def readWorkspace : Value → Except SettingsError Path
  | .text s => .ok (Path.parse s)
  | given => .error (.badWorkspace given)

/-- A notice when the limit for very large files is below the one for large files. -/
def reversedNotices (t : Thresholds) : List Notice :=
  let veryLarge := t.get .veryLargeFileLines
  let large := t.get .largeFileLines
  if veryLarge.lt large then [.limitsReversed veryLarge large] else []

/-- The settings apart from the thresholds. -/
def finishSettings (raw : RawSettings) (t : Thresholds) : Except SettingsError Settings := do
  let workers ← readWorkers raw.workers
  let timeout ← readTimeout raw.timeout
  let workspace ← readWorkspace raw.workspace
  return ⟨workspace, t, workers, timeout, raw.prune.truthy⟩

/-- Reads settings, with the notices made on the way. -/
def Settings.read (raw : RawSettings) : List Notice × Except SettingsError Settings :=
  match thresholdEntries raw.thresholds with
  | .error e => ([], .error e)
  | .ok entries =>
    match readThresholds entries .defaults with
    | (notices, .error e) => (notices, .error e)
    | (notices, .ok t) =>
      match finishSettings raw t with
      | .error e => (notices, .error e)
      | .ok settings => (notices ++ reversedNotices t, .ok settings)

end CodeCensus
