import CodeCensus.Tree.Walk

/-!
# Changes in a workspace

Which changes of files matter: a file below the watched directory, not inside a directory that is passed
over, that passes the watcher's test.

Contents: `EventKind`, `FileEvent`, `WatchRules`, `WatchRules.isRelevant`, `WatchRules.changedFile?`.
-/

namespace CodeCensus

/-- What happened to a file. -/
inductive EventKind where
  | created
  | modified
  | moved
  | deleted
  | opened
  | closed
  deriving DecidableEq, Repr

/-- The event changes what a report says; opening and closing do not. -/
def EventKind.isChange : EventKind → Bool
  | opened | closed => false
  | _ => true

/-- Something that happened to a file or directory; a moved one has a destination. -/
structure FileEvent where
  kind : EventKind
  source : Path
  destination : Option Path
  isDirectory : Bool

/-- Where to watch and what to watch for. -/
structure WatchRules where
  root : Path
  accepts : Path → Bool
  skips : List String

namespace WatchRules

/-- A changed path can affect the report. -/
def isRelevant (rules : WatchRules) (path : Path) : Bool :=
  match path.relativeTo? rules.root with
  | none => false
  | some rest =>
    !rest.parts.isEmpty && !(rest.parts.dropLast.any (skipsDirectory rules.skips)) &&
      rules.accepts path

/-- The first relevant path of an event that changes a file. -/
def changedFile? (rules : WatchRules) (e : FileEvent) : Option Path :=
  if e.isDirectory || !e.kind.isChange then none
  else (e.source :: e.destination.toList).find? rules.isRelevant

end WatchRules
end CodeCensus
