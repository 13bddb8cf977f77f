import CodeCensus.CommandLine.Arguments
import CodeCensus.Template.Report
import CodeCensus.Watch.Loop

/-!
# The console

What a run of the program sees and leaves behind: the file system, what it printed and said, the notices it
logged and the files it wrote. A run ends with a status, or with a failure that no rule of the program
covers.

Contents: `ConsoleMessage`, `Console`, `Console.changedFiles`, `Escape`, `Ending`.
-/

namespace CodeCensus

/-- The name of the program in messages. -/
def programName : String := "codebase-audit"

/-- The version of the program. -/
def programVersion : String := "1.0.0"

/-- What the program says beside its output. -/
inductive ConsoleMessage where
  | usage (error : UsageError)
  | configMissing (path : Path)
  | configInvalid (path : Path) (error : DocumentError)
  | configLoaded (path : Path)
  | outputWritten (file : String)
  | templatesWritten (directory : String)
  | watch (message : WatchMessage)

/-- The wording of a message. -/
def ConsoleMessage.text : ConsoleMessage → String
  | usage e => programName ++ ": error: " ++ e.message
  | configMissing path => "Error: Config file '" ++ path.text ++ "' does not exist"
  | configInvalid path e => "Error: Invalid config file '" ++ path.text ++ "': " ++ e.message
  | configLoaded path => "Loaded config: " ++ path.text
  | outputWritten file => "Output written to: " ++ file
  | templatesWritten directory => "Templates written to: " ++ directory
  | watch m => m.text

/-- The surroundings of a run and what it has left there. -/
structure Console where
  fs : FileSystem
  printed : List String
  messages : List ConsoleMessage
  notices : List Notice
  written : List WrittenFile

namespace Console

/-- A console on which nothing has happened. -/
def fresh (fs : FileSystem) : Console := ⟨fs, [], [], [], []⟩

/-- Prints a text and ends the line. -/
def print (c : Console) (text : String) : Console := { c with printed := c.printed ++ [text ++ "\n"] }

/-- Says something. -/
def say (c : Console) (m : ConsoleMessage) : Console := { c with messages := c.messages ++ [m] }

/-- Says something if the user wants to hear of everything. -/
def mention (c : Console) (verbose : Bool) (m : ConsoleMessage) : Console :=
  if verbose then c.say m else c

/-- Logs notices. -/
def log (c : Console) (notices : List Notice) : Console := { c with notices := c.notices ++ notices }

/-- A file that was written and now differs from what was there, read through links. -/
def changedFile? (before : FileSystem) (c : Console) (p : Path) : Option (Path × ByteArray) :=
  match c.fs.locate p, before.locate p with
  | .ok (place, .file content _), old =>
    let same := match old with
      | .ok (_, .file earlier _) => decide (content.toList = earlier.toList)
      | _ => false
    if same || !(c.written.any fun w => w.place = place) then none else some (p, content)
  | _, _ => none

/-- The files that the run made or changed. -/
def changedFiles (before : FileSystem) (c : Console) : List (Path × ByteArray) :=
  (c.fs.tree.leaves []).filterMap fun place => c.changedFile? before ⟨.root, place⟩

end Console

/-- A failure that no rule of the program covers. -/
inductive Escape where
  | document (error : DocumentError)
  | override (fault : Yaml.Fault)
  | options (error : OptionsError)
  | path (path : Path) (fault : FileFault)
  | output (file : String) (fault : FileFault)
  | template (error : TemplateError)

/-- The wording of a failure. -/
def Escape.message : Escape → String
  | document e => e.message
  | override fault => fault.message
  | options e => e.message
  | path p fault => systemMessage fault p.text
  | output file fault => systemMessage fault file
  | template e => e.message

/-- How a run ends. -/
inductive Ending where
  | exit (status : Nat)
  | escaped (failure : Escape)

end CodeCensus
