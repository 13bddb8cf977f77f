import CodeCensus.CommandLine.Run

/-!
# The program

Reads what a command line needs from the disk into a file tree, runs the command line on it, and puts out
what the run left behind. A watched workspace is read again every second; what differs from the last
reading is an event.

Contents: `Disk.load`, `Disk.fileSystem`, `Disk.settle`, `main`.
-/

namespace CodeCensus
namespace Disk

/-- The node at a path of the disk. Directories that no analysis enters are left empty. -/
partial def load (path : String) : IO (Option Node) := do
  let p := (← IO.currentDir) / path
  match ← p.symlinkMetadata.toBaseIO with
  | .error _ => return none
  | .ok info =>
    match info.type with
    | .symlink =>
      match ← (IO.FS.realPath p).toBaseIO with
      | .ok target => return some (.link target.toString)
      | .error _ => return some (.link path)
    | .dir =>
      let .ok listed ← p.readDir.toBaseIO | return some .closed
      let mut entries : List (String × Node) := []
      for e in listed do
        if skipsDirectory defaultSkips e.fileName && (← e.path.isDir) then
          entries := (e.fileName, .directory []) :: entries
        else if let some n ← load e.path.toString then
          entries := (e.fileName, n) :: entries
      return some (.directory entries.reverse)
    | .file =>
      match ← (IO.FS.readBinFile p).toBaseIO with
      | .ok content =>
        return some (.file content (info.modified.sec * 1000000000 + info.modified.nsec.toNat))
      | .error _ => return some .pipe
    | .other => return some .pipe

/-- Adds to a tree what the disk has at an absolute path, or the last directory on the way there. -/
partial def graft (tree : Node) (p : Path) : IO Node := do
  match ← (IO.FS.realPath p.text).toBaseIO with
  | .ok real =>
    let place := (Path.parse real.toString).parts
    let some n ← load real.toString | return tree
    let tree := tree.put place n
    if place = p.parts || p.parts.contains ".." then return tree
    return tree.put p.parts (.link real.toString)
  | .error _ =>
    if p.parts.isEmpty then return tree
    let above := p.parent
    let fs : FileSystem := ⟨tree, [], [], []⟩
    if (fs.nodeAt? above.parts).isSome then return tree
    if ← ((← IO.currentDir) / above.text).isDir then return tree.put above.parts (.directory [])
    graft tree above

/-- The paths that a command line reads or writes. -/
def neededPaths (argv : List String) : List String :=
  match parseArguments argv with
  | .error _ => []
  | .ok a =>
    let named := [a.config, a.templateDir, a.initTemplates, a.output].filterMap filled
    if a.command.isSome then a.path :: named else named

/-- The home directories of the users that the system knows of. -/
def users : IO (List (String × List String)) := do
  match ← (IO.FS.readFile "/etc/passwd").toBaseIO with
  | .error _ => return []
  | .ok table =>
    return (Text.splitLines table).filterMap fun line =>
      match line.splitOn ":" with
      | name :: _ :: _ :: _ :: _ :: home :: _ => some (name, (Path.parse home).parts)
      | _ => none

/-- What a command line needs of the disk. -/
def fileSystem (argv : List String) : IO FileSystem := do
  let current := (Path.parse (← IO.currentDir).toString).parts
  let home := (Path.parse ((← IO.getEnv "HOME").getD "/")).parts
  let users ← users
  let mut tree := Node.put (.directory []) current (.directory [])
  for text in neededPaths argv do
    let fs : FileSystem := ⟨tree, current, home, users⟩
    match fs.expandHome (Path.parse text) with
    | .ok p => tree ← graft tree (if p.isAbsolute then p else ⟨.root, current ++ p.parts⟩)
    | .error _ => pure ()
  return ⟨tree, current, home, users⟩

/-- Puts out what a run left on its console, and clears it. -/
def settle (c : Console) : IO Console := do
  for file in c.written do
    let path := Path.mk .root file.place
    IO.FS.createDirAll path.parent.text
    IO.FS.writeFile path.text file.text
  for n in c.notices do IO.eprintln n.line
  for m in c.messages do IO.eprintln m.text
  for text in c.printed do IO.print text
  (← IO.getStdout).flush
  return { c with written := [], notices := [], messages := [], printed := [] }

/-- The regular files below a directory, with their contents. -/
def contents (fs : FileSystem) (root : Path) : List (Path × ByteArray) :=
  let walked := (fs.walk? metricsWalk root).getD []
  (foundPaths walked).filterMap fun p =>
    match fs.readBytes p with
    | .ok bytes => some (p, bytes)
    | .error _ => none

/-- The events that lead from one reading of a directory to the next. -/
def eventsBetween (root : Path) (before after : FileSystem) : List FileEvent :=
  let old := contents before root
  let new := contents after root
  let changed := new.filterMap fun (p, bytes) =>
    match old.find? fun e => e.1 = p with
    | none => some ⟨.created, p, none, false⟩
    | some (_, was) => if was.toList = bytes.toList then none else some ⟨.modified, p, none, false⟩
  let gone := old.filterMap fun (p, _) =>
    if new.any fun e => e.1 = p then none else some ⟨.deleted, p, none, false⟩
  changed ++ gone

/-- The number of processors, zero if the system does not tell. -/
def processors : IO Nat := do
  match ← (IO.FS.readFile "/proc/cpuinfo").toBaseIO with
  | .error _ => return 0
  | .ok table => return (Text.splitLines table).countP fun line => line.startsWith "processor"

/-- The seconds since some moment, as a double. -/
def clock : IO Double := do
  let ms ← IO.monoMsNow
  return Double.ofInt ms * Double.ofDecimal false 1 (-3)

/-- Watches a workspace until the program is stopped. -/
partial def watch (plan : Plan) (argv : List String) (rules : WatchRules) (w : Watching Console) :
    IO Unit := do
  IO.sleep 1000
  let now ← clock
  let fs ← fileSystem argv
  let events := eventsBetween rules.root w.world.fs fs
  let host := consoleHost plan fun _ => now
  let w := w.tick host rules watchDebounce
    (.change (fun c => { c with fs }) :: events.map .event)
  let world ← settle w.world
  watch plan argv rules { w with world }

end Disk
end CodeCensus

open CodeCensus in
/-- Runs the command line. -/
def main (argv : List String) : IO UInt32 := do
  let began ← Disk.clock
  let fs ← Disk.fileSystem argv
  let elapsed := (← Disk.clock) - began
  let run : RunHost := ⟨fun _ => false, .zero, fun _ => elapsed, ← Disk.processors, fun _ _ => 0⟩
  let (c, started) := startCommandLine run argv fs
  let c ← Disk.settle c
  match started with
  | .ended (.exit status) => return status.toUInt32
  | .ended (.escaped failure) =>
    IO.eprintln failure.message
    return 1
  | .watching plan root =>
    let rules := watchRules plan c.fs root
    let host := consoleHost plan fun _ => elapsed
    let w := ((Watching.mk .initial c).say host (.watching root)).say host .howToStop
    let world ← Disk.settle w.world
    Disk.watch plan argv rules { w with world }
    return 0
