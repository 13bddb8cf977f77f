import CodeCensus.Number.Double
import CodeCensus.Text.Utf8
import CodeCensus.Tree.Node

/-!
# Reading files

The size and time of a file, and its content as text: strict UTF-8, every line ending read as a line
feed.

Contents: `FileInfo`, `FileError`, `FileSystem.stat`, `FileSystem.readText`.
-/

namespace CodeCensus

/-- A file that could not be inspected or read, or a directory that could not be listed, and why. -/
inductive FileError where
  | cannotStat (path : Path) (fault : FileFault)
  | cannotList (path : Path) (fault : FileFault)
  | cannotRead (path : Path) (fault : FileFault)
  | notUtf8 (path : Path) (fault : Text.Utf8Fault)
  deriving DecidableEq, Repr

namespace FileError

/-- The wording of an error. -/
def message : FileError → String
  | cannotStat _ .embeddedNul => FileFault.embeddedNul.message
  | cannotStat path fault => "Cannot stat " ++ path.text ++ ": " ++ fault.message
  | cannotList path fault => "Cannot list " ++ path.text ++ ": " ++ fault.message
  | cannotRead _ .embeddedNul => FileFault.embeddedNul.message
  | cannotRead path fault => "Cannot read " ++ path.text ++ ": " ++ fault.message
  | notUtf8 path fault => "Cannot read " ++ path.text ++ ": not valid UTF-8 (" ++ fault.message ++ ")"

/-- The file that the error is about. -/
def path : FileError → Path
  | cannotStat path _ => path
  | cannotList path _ => path
  | cannotRead path _ => path
  | notUtf8 path _ => path

end FileError

/-- What is known of a file without reading it. -/
structure FileInfo where
  isRegular : Bool
  size : Nat
  modified : Int

/-- A time in nanoseconds as seconds: the whole seconds plus a billionth of the rest, in doubles. -/
def secondsOf (nanoseconds : Int) : Double :=
  let whole := Int.fdiv nanoseconds 1000000000
  let rest := Int.fmod nanoseconds 1000000000
  Double.ofInt whole + Double.ofDecimal false 1 (-9) * Double.ofInt rest

/-- What is known of a node. -/
def Node.info : Node → FileInfo
  | .file content modified => ⟨true, content.size, modified⟩
  | _ => ⟨false, 0, 0⟩

namespace FileSystem

/-- Size and time of the file at a path. -/
def stat (fs : FileSystem) (path : Path) : Except FileError FileInfo :=
  match fs.locate path with
  | .ok (_, n) => .ok n.info
  | .error fault => .error (.cannotStat path fault)

/-- The bytes of the file at a path. -/
def readBytes (fs : FileSystem) (path : Path) : Except FileFault ByteArray :=
  match fs.locate path with
  | .ok (_, .file content _) => .ok content
  | .ok (_, .directory _) => .error .isDirectory
  | .ok (_, .closed) => .error .permissionDenied
  | .ok _ => .ok .empty
  | .error fault => .error fault

/-- The text of the file at a path. -/
def readText (fs : FileSystem) (path : Path) : Except FileError String :=
  match fs.readBytes path with
  | .error fault => .error (.cannotRead path fault)
  | .ok bytes =>
    match Text.decodeUtf8 bytes.toList with
    | .error e => .error (.notUtf8 path e.fault)
    | .ok cs => .ok (String.ofList (Text.universalNewlines cs))

end FileSystem
end CodeCensus
