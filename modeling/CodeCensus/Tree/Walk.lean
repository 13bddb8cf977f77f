import CodeCensus.Number.Text
import CodeCensus.Text.Quoted
import CodeCensus.Tree.File

/-!
# Walking a tree

The files of a workspace in a fixed order: in each directory first its files, sorted by name, then its
subdirectories, sorted by name. Links to directories are not entered and are no files. Files are regular
files, reached through links if need be, that pass the caller's test and are not too large. A directory that
cannot be listed is an error on the way.

Contents: `defaultSkips`, `skipsDirectory`, `WalkOptions`, `FileSystem.walkNode`, `FileSystem.walk?`,
`WorkspaceError`, `FileSystem.expandHome`, `FileSystem.resolveWorkspace`.
-/

namespace CodeCensus

/-- Directories that are never entered. -/
def defaultSkips : List String :=
  ["node_modules", ".git", ".svn", ".hg", "dist", "build", "target", "bin", "obj", ".vscode", ".idea",
    "__pycache__", ".pytest_cache", "coverage", ".nyc_output", "vendor", "bower_components"]

/-- A directory is passed over when it is listed or its name starts with a dot. -/
def skipsDirectory (skips : List String) (name : String) : Bool :=
  skips.contains name || name.toList.head? = some '.'

/-- Which files and directories a walk takes in. -/
structure WalkOptions where
  accepts : Path → Bool
  skips : List String
  maxSize : Option Int

/-- Sorts named things by name, in code point order. -/
def sortByName {α : Type} (items : List (String × α)) : List (String × α) :=
  items.mergeSort fun a b => a.1 ≤ b.1

namespace FileSystem

/-- The entry counts as a directory: it is one, or a link that leads to one. -/
def leadsToDirectory (fs : FileSystem) (path : Path) : Node → Bool
  | .directory _ | .closed => true
  | .link _ =>
    match fs.locate path with
    | .ok (_, n) => n.isDirectory
    | .error _ => false
  | _ => false

/-- The file at a path if the walk takes it in; an error when it cannot be inspected. -/
def visitFile (fs : FileSystem) (options : WalkOptions) (path : Path) :
    Option (Except FileError Path) :=
  if !options.accepts path then none
  else
    match fs.stat path with
    | .error e => some (.error e)
    | .ok info =>
      if !info.isRegular then none
      else if options.maxSize.any fun limit => decide (limit < (info.size : Int)) then none
      else some (.ok path)

/-- The files that a directory itself holds. -/
def filesOf (fs : FileSystem) (options : WalkOptions) (dir : Path) (entries : List (String × Node)) :
    List (Except FileError Path) :=
  (sortByName (entries.filter fun e => !fs.leadsToDirectory (dir.child e.1) e.2)).filterMap
    fun e => fs.visitFile options (dir.child e.1)

mutual

/-- The files below a directory, and the errors met on the way. -/
def walkNode (fs : FileSystem) (options : WalkOptions) (dir : Path) :
    Node → List (Except FileError Path)
  | .directory entries =>
    fs.filesOf options dir entries ++
      (sortByName (walkEntries fs options dir entries)).flatMap (·.2)
  | .closed => [.error (.cannotList dir .permissionDenied)]
  | _ => []

/-- The walk of each subdirectory that is entered, with its name. -/
def walkEntries (fs : FileSystem) (options : WalkOptions) (dir : Path) :
    List (String × Node) → List (String × List (Except FileError Path))
  | [] => []
  | e :: rest => walkEntry fs options dir e ++ walkEntries fs options dir rest

/-- The walk of one entry, if it is a directory that is entered. -/
def walkEntry (fs : FileSystem) (options : WalkOptions) (dir : Path) :
    String × Node → List (String × List (Except FileError Path))
  | (name, n) =>
    if n.isDirectory && !skipsDirectory options.skips name then
      [(name, walkNode fs options (dir.child name) n)]
    else []

end

/-- The walk of the directory at a path; nothing when there is no directory. -/
def walk? (fs : FileSystem) (options : WalkOptions) (root : Path) :
    Option (List (Except FileError Path)) :=
  match fs.locate root with
  | .ok (_, n) => if n.isDirectory then some (fs.walkNode options root n) else none
  | .error _ => none

end FileSystem

/-! ## Workspaces -/

/-- Why a workspace cannot be analysed. -/
inductive WorkspaceError where
  | missing (workspace : String)
  | noHome
  | nulInHome
  | unusable (path : Path) (fault : FileFault)
  deriving DecidableEq, Repr

/-- The fault of a path in the wording of the system. -/
def systemMessage (fault : FileFault) (path : String) : String :=
  match fault with
  | .embeddedNul => fault.message
  | _ => "[Errno " ++ natDigits fault.number ++ "] " ++ fault.message ++ ": " ++ Text.quoted path

/-- The wording of an error. -/
def WorkspaceError.message : WorkspaceError → String
  | missing workspace => "Workspace directory does not exist: " ++ workspace
  | noHome => "Could not determine home directory."
  | nulInHome => FileFault.embeddedNul.message
  | unusable path fault => systemMessage fault path.text

namespace FileSystem

/-- The home directory of the user with a name. -/
def homeOf (fs : FileSystem) (user : String) : Except WorkspaceError (List String) :=
  if user.toList.contains '\x00' then .error .nulInHome
  else
    match fs.users.find? fun u => u.1 = user with
    | some (_, home) => .ok home
    | none => .error .noHome

/-- The path with a leading tilde replaced by the home directory, and a name behind the tilde by that user's. -/
def expandHome (fs : FileSystem) (p : Path) : Except WorkspaceError Path :=
  match p.anchor, p.parts with
  | .here, "~" :: rest => .ok ⟨.root, fs.home ++ rest⟩
  | .here, first :: rest =>
    match first.toList with
    | '~' :: user => (fs.homeOf (String.ofList user)).map fun home => ⟨.root, home ++ rest⟩
    | _ => .ok p
  | _, _ => .ok p

/-- The directory that a path leads to, by its real name. -/
def resolveWorkspace (fs : FileSystem) (given : String) (p : Path) : Except WorkspaceError Path := do
  let expanded ← fs.expandHome p
  match fs.locate expanded with
  | .ok (place, n) => if n.isDirectory then return ⟨.root, place⟩ else throw (.missing given)
  | .error fault => throw (if fault.hidesAnswer then .unusable expanded fault else .missing given)

end FileSystem
end CodeCensus
