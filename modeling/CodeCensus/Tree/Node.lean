import CodeCensus.Tree.Path

/-!
# File trees

A file system as data: regular files with their bytes and modification times, directories, directories that
may not be opened, symbolic links and pipes, and the rules by which a path is followed through them.

Contents:
* `Node`, `FileSystem`;
* `FileFault` — why a path cannot be followed or used;
* `FileSystem.locate` — the node at the end of a path and where it really lies.
-/

namespace CodeCensus

/-- An entry of a file tree. -/
inductive Node where
  | file (content : ByteArray) (modified : Int)
  | directory (entries : List (String × Node))
  | link (target : String)
  | pipe
  /-- A directory that may be neither listed nor searched. -/
  | closed
  deriving Inhabited

namespace Node

/-- The entry with a given name. -/
def child? (n : Node) (name : String) : Option Node :=
  match n with
  | directory entries => (entries.find? fun e => e.1 = name).map (·.2)
  | _ => none

/-- Whether this is a directory itself; a link to one is not. -/
def isDirectory : Node → Bool
  | directory _ | closed => true
  | _ => false

/-- Whether this is a directory that may not be opened. -/
def isClosed : Node → Bool
  | closed => true
  | _ => false

/-- Puts an entry into a list of entries, in place of one with the same name. -/
def putEntry (entries : List (String × Node)) (name : String) (n : Node) : List (String × Node) :=
  if entries.any fun e => e.1 = name then
    entries.map fun e => if e.1 = name then (name, n) else e
  else entries ++ [(name, n)]

/-- The entries of a directory, and none of anything else. -/
def entries : Node → List (String × Node)
  | directory es => es
  | _ => []

/-- The tree with `new` at the end of `names`; missing directories are made on the way. -/
def put (tree : Node) (names : List String) (new : Node) : Node :=
  match names with
  | [] => new
  | name :: rest =>
    let below := (tree.child? name).getD (.directory [])
    .directory (putEntry tree.entries name (below.put rest new))

/-- The tree without the entry at the end of `names`. -/
def remove (tree : Node) (names : List String) : Node :=
  match names with
  | [] => tree
  | [name] => .directory (tree.entries.filter fun e => e.1 ≠ name)
  | name :: rest =>
    match tree.child? name with
    | some below => .directory (putEntry tree.entries name (below.remove rest))
    | none => tree

mutual

/-- The places below a node that are no directories. -/
def leaves (here : List String) : Node → List (List String)
  | directory es => leavesOf here es
  | _ => [here]

/-- The places below entries that are no directories. -/
def leavesOf (here : List String) : List (String × Node) → List (List String)
  | [] => []
  | e :: rest => leavesAt here e ++ leavesOf here rest

/-- The places below one entry that are no directories. -/
def leavesAt (here : List String) : String × Node → List (List String)
  | (name, n) => leaves (here ++ [name]) n

end

end Node

/-- A tree below the root, the current directory, the home directory, and those of users by name. -/
structure FileSystem where
  tree : Node
  current : List String
  home : List String
  users : List (String × List String)

/-- Why a path cannot be followed or used. -/
inductive FileFault where
  | notFound
  | permissionDenied
  | notDirectory
  | isDirectory
  | tooManyLinks
  | nameTooLong
  | alreadyExists
  | embeddedNul
  deriving DecidableEq, Repr

namespace FileFault

/-- The number of a fault; a path with a NUL is refused before the system sees it. -/
def number : FileFault → Nat
  | notFound => 2
  | permissionDenied => 13
  | alreadyExists => 17
  | notDirectory => 20
  | isDirectory => 21
  | nameTooLong => 36
  | tooManyLinks => 40
  | embeddedNul => 0

/-- The wording of a fault. -/
def message : FileFault → String
  | notFound => "No such file or directory"
  | permissionDenied => "Permission denied"
  | alreadyExists => "File exists"
  | notDirectory => "Not a directory"
  | isDirectory => "Is a directory"
  | nameTooLong => "File name too long"
  | tooManyLinks => "Too many levels of symbolic links"
  | embeddedNul => "embedded null byte"

/-- The fault is not an answer to whether there is something at a path. -/
def hidesAnswer : FileFault → Bool
  | nameTooLong | permissionDenied => true
  | _ => false

end FileFault

namespace FileSystem

/-- The most links that are followed for one path. -/
def maxLinks : Nat := 40

/-- The longest name, in bytes. -/
def maxNameBytes : Nat := 255

/-- The longest text of a path, in bytes. -/
def maxPathBytes : Nat := 4095

/-- The fault of a path text that no system call takes. -/
def textFault? (s : String) : Option FileFault :=
  if s.toList.contains '\x00' then some .embeddedNul
  else if maxPathBytes < s.utf8ByteSize then some .nameTooLong
  else none

/-- The place where a path text starts, seen from a place. -/
def startFrom (here : List String) (s : String) : List String :=
  if s.toList.head? = some '/' then [] else here

/-- The node at the end of names from the root, no links followed. -/
def nodeAt? (fs : FileSystem) (names : List String) : Option Node :=
  names.foldl (fun n name => n.bind (·.child? name)) (some fs.tree)

/-- Follows `names` from the directory at `here`, with at most `links` links on the way. Gives the place
    that is reached, and its node. -/
def follow (fs : FileSystem) (links : Nat) (here : List String) (names : List String) :
    Except FileFault (List String × Node) :=
  match names with
  | [] =>
    match fs.nodeAt? here with
    | some n => .ok (here, n)
    | none => .error .notFound
  | name :: rest =>
    match fs.nodeAt? here with
    | none => .error .notFound
    | some n =>
      if !n.isDirectory then .error .notDirectory
      else if n.isClosed then .error .permissionDenied
      else if name = "." then follow fs links here rest
      else if name = ".." then follow fs links here.dropLast rest
      else if maxNameBytes < name.utf8ByteSize then .error .nameTooLong
      else
        match n.child? name with
        | none => .error .notFound
        | some (.link target) =>
          match links with
          | 0 => .error .tooManyLinks
          | left + 1 => follow fs left (startFrom here target) (steps target ++ rest)
        | some _ => follow fs links (here ++ [name]) rest
termination_by (links, names.length)

/-- The directory where a path starts. -/
def startOf (fs : FileSystem) (p : Path) : List String := if p.isAbsolute then [] else fs.current

/-- The place and the node that a path leads to, all links followed. -/
def locate (fs : FileSystem) (p : Path) : Except FileFault (List String × Node) :=
  match textFault? p.text with
  | some fault => .error fault
  | none => fs.follow maxLinks (fs.startOf p) p.parts

/-- The path leads to something. -/
def exists? (fs : FileSystem) (p : Path) : Except FileFault Bool :=
  match fs.locate p with
  | .ok _ => .ok true
  | .error fault => if fault.hidesAnswer then .error fault else .ok false

/-- The path leads to a directory. -/
def isDirectory? (fs : FileSystem) (p : Path) : Except FileFault Bool :=
  match fs.locate p with
  | .ok (_, n) => .ok n.isDirectory
  | .error fault => if fault.hidesAnswer then .error fault else .ok false

end FileSystem
end CodeCensus
