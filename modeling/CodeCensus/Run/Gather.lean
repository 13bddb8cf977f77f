import CodeCensus.Tree.Walk

/-!
# Analysing many files

Files are analysed independently and may finish in any order. Their outcomes carry the position of the
file in the walk, and the gathered results come in that order whatever order they finished in.

Contents: `FileOutcome`, `FileOutcome.of`, `Gathered`, `gather`, `analyzeFiles`.
-/

namespace CodeCensus

/-- What became of one file. -/
inductive FileOutcome (α : Type) where
  | result (value : α)
  | dropped
  | skipped (error : FileError)

/-- The outcome of an analysis that may fail or have nothing to report. -/
def FileOutcome.of {α : Type} : Except FileError (Option α) → FileOutcome α
  | .ok (some value) => .result value
  | .ok none => .dropped
  | .error e => .skipped e

/-- The results in walk order, the skipped files sorted by relative path, and the errors in the order in
    which they came. -/
structure Gathered (α : Type) where
  results : List α
  skipped : List String
  errors : List FileError

/-- The result of an outcome, with the position of its file. -/
def resultAt? {α : Type} : Nat × FileOutcome α → Option (Nat × α)
  | (index, .result value) => some (index, value)
  | _ => none

/-- The error of an outcome. -/
def errorOf? {α : Type} : Nat × FileOutcome α → Option FileError
  | (_, .skipped e) => some e
  | _ => none

/-- Gathers outcomes in the order in which they finished. -/
def gather {α : Type} (root : Path) (finished : List (Nat × FileOutcome α)) : Gathered α :=
  let errors := finished.filterMap errorOf?
  { results := ((finished.filterMap resultAt?).mergeSort fun a b => a.1 ≤ b.1).map (·.2)
    skipped := (errors.map fun e => e.path.relativeText root).mergeSort fun a b => a ≤ b
    errors }

/-- The outcome of each file, with its position. -/
def outcomes {α : Type} (analyze : Path → Except FileError (Option α)) (paths : List Path) :
    List (Nat × FileOutcome α) :=
  paths.zipIdx.map fun (path, index) => (index, FileOutcome.of (analyze path))

/-- Analyses files one after another. -/
def analyzeFiles {α : Type} (root : Path) (analyze : Path → Except FileError (Option α))
    (paths : List Path) : Gathered α :=
  gather root (outcomes analyze paths)

end CodeCensus
