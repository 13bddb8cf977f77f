import CodeCensus.Tree.Walk

/-!
# Writing files

New files and directories in a tree. A file is written through links to where they lead; a directory is
made together with the directories above it that are missing.

Contents: `WrittenFile`, `FileSystem.placeFor`, `FileSystem.write`, `FileSystem.makeDirectories`,
`FileSystem.addEntry`, `FileSystem.removeEntry`, `FileSystem.realPath`.
-/

namespace CodeCensus

/-- A file that was written: where it lies, and its text. -/
structure WrittenFile where
  place : List String
  text : String

namespace FileSystem

/-- The directory at the end of names, which can be searched. -/
def directoryAt (fs : FileSystem) (links : Nat) (here names : List String) :
    Except FileFault (List String × Node) := do
  let (place, n) ← fs.follow links here names
  if !n.isDirectory then throw .notDirectory
  if n.isClosed then throw .permissionDenied
  return (place, n)

/-- Where a file at a path text would be written, links at the end followed. The text has to end in a name
    that is no directory's. -/
def placeFor (fs : FileSystem) (links : Nat) (here : List String) (text : String) :
    Except FileFault (List String) := do
  let names := rawNames text
  match names.getLast? with
  | none => throw .isDirectory
  | some name =>
    let (place, n) ← fs.directoryAt links (startFrom here text) names.dropLast
    if name = "." || name = ".." || endsInSlash text then throw .isDirectory
    if maxNameBytes < name.utf8ByteSize then throw .nameTooLong
    match n.child? name with
    | none => return place ++ [name]
    | some (.directory _) | some .closed => throw .isDirectory
    | some (.link target) =>
      match links with
      | 0 => throw .tooManyLinks
      | left + 1 => fs.placeFor left place target
    | some _ => return place ++ [name]

/-- Writes a file, and tells where it lies. -/
def write (fs : FileSystem) (text : String) (content : ByteArray) :
    Except FileFault (List String × FileSystem) := do
  match textFault? text with
  | some fault => throw fault
  | none =>
    if text.isEmpty then throw .notFound
    let place ← fs.placeFor maxLinks fs.current text
    return (place, { fs with tree := fs.tree.put place (.file content 0) })

/-- Makes one directory in a directory that is there. -/
def makeDirectory (fs : FileSystem) (p : Path) : Except FileFault FileSystem := do
  if let some fault := textFault? p.text then throw fault
  match p.parts.getLast? with
  | none => throw .alreadyExists
  | some name =>
    let (place, n) ← fs.directoryAt maxLinks (fs.startOf p) p.parts.dropLast
    if maxNameBytes < name.utf8ByteSize then throw .nameTooLong
    if name = ".." || (n.child? name).isSome then throw .alreadyExists
    return { fs with tree := fs.tree.put (place ++ [name]) (.directory []) }

/-- The path leads to a directory. -/
def leadsIntoDirectory (fs : FileSystem) (p : Path) : Bool :=
  match fs.locate p with
  | .ok (_, n) => n.isDirectory
  | .error _ => false

/-- Makes a directory unless it is there already. -/
def ensureDirectory (fs : FileSystem) (p : Path) : Except (FileFault × Path) FileSystem :=
  match fs.makeDirectory p with
  | .ok made => .ok made
  | .error .notFound => .error (.notFound, p)
  | .error .embeddedNul => .error (.embeddedNul, p)
  | .error fault => if fs.leadsIntoDirectory p then .ok fs else .error (fault, p)

/-- Makes the directory at the end of `depth` or fewer names, with the missing ones above it. -/
def makeDirectoriesFrom (fs : FileSystem) (p : Path) :
    (depth : Nat) → Except (FileFault × Path) FileSystem
  | 0 => fs.ensureDirectory p
  | depth + 1 =>
    match fs.ensureDirectory p with
    | .error (.notFound, _) => do
      let above ← makeDirectoriesFrom fs p.parent depth
      above.ensureDirectory p
    | result => result

/-- Makes a directory with the missing ones above it; a fault comes with the path it is about. -/
def makeDirectories (fs : FileSystem) (p : Path) : Except (FileFault × Path) FileSystem :=
  fs.makeDirectoriesFrom p p.parts.length

/-! ## Entries -/

/-- Where the entry at a path stands, its own links not followed. -/
def standing (fs : FileSystem) (p : Path) : List String :=
  match fs.locate p.parent with
  | .ok (place, _) => place ++ p.parts.getLast?.toList
  | .error _ => fs.startOf p ++ p.parts

/-- Puts an entry at a path text, with the directories above it. A file goes where the links at its end
    lead. -/
def addEntry (fs : FileSystem) (text : String) (n : Node) : FileSystem :=
  let p := Path.parse text
  let above := (fs.makeDirectories p.parent).toOption.getD fs
  match n with
  | .directory _ => (above.makeDirectories p).toOption.getD above
  | .file .. =>
    match above.placeFor maxLinks above.current text with
    | .ok place => { above with tree := above.tree.put place n }
    | .error _ => above
  | _ => { above with tree := above.tree.put (above.standing p) n }

/-- Takes the entry at a path text away. -/
def removeEntry (fs : FileSystem) (text : String) : FileSystem :=
  { fs with tree := fs.tree.remove (fs.standing (Path.parse text)) }

/-- The absolute path of where a path leads. -/
def realPath (fs : FileSystem) (p : Path) : Path :=
  match fs.locate p with
  | .ok (place, _) => ⟨.root, place⟩
  | .error _ => if p.isAbsolute then p else ⟨.root, fs.current ++ p.parts⟩

end FileSystem
end CodeCensus
