import CodeCensus.Duplicate.Group
import CodeCensus.Tree.Walk

/-!
# Notices

What a run tells its user beside the report: warnings about settings, files and interrupted scans, and
the errors that end a run.

Contents: `Severity`, `Notice`, `Notice.severity`, `Notice.message`, `Notice.line`.
-/

namespace CodeCensus

/-- How grave a notice is. -/
inductive Severity where
  | warning
  | error
  deriving DecidableEq, Repr

/-- The word for a severity. -/
def Severity.word : Severity → String
  | warning => "WARNING"
  | error => "ERROR"

/-- Something that a run reports. -/
inductive Notice where
  | unknownThreshold (key : Value)
  | limitsReversed (veryLarge large : Number)
  | unknownSection (key : Value) (file : String)
  | badPattern (bad : BadPattern)
  | scanStopped (kind : DuplicateKind)
  | notInspected (error : FileError)
  | fileSkipped (error : FileError)
  | templatesMissing (directory : String)
  | failed (message : String)
  | argumentsRejected (workspace : String)
  | analysisFailed (workspace : String)
  | rerunFailed
  deriving Repr

namespace Notice

/-- Only what ends a run is an error. -/
def severity : Notice → Severity
  | failed _ => .error
  | argumentsRejected _ => .error
  | analysisFailed _ => .error
  | rerunFailed => .error
  | _ => .warning

/-- The wording of a notice. -/
def message : Notice → String
  | unknownThreshold key => "Ignoring unknown threshold " ++ key.quoted
  | limitsReversed veryLarge large =>
    "veryLargeFileLines (" ++ veryLarge.text ++ ") is below largeFileLines (" ++ large.text ++ ")"
  | unknownSection key file => "Ignoring unknown config section " ++ key.quoted ++ " in " ++ file
  | badPattern bad =>
    "Invalid structure pattern " ++ Text.quoted bad.pattern ++ ": " ++ bad.fault.message
  | scanStopped kind => kind.tag ++ " scan stopped early; results are partial"
  | notInspected e => e.message
  | fileSkipped e => "Skipping file: " ++ e.message
  | templatesMissing directory =>
    "Template directory " ++ directory ++ " not found, using built-in templates"
  | failed text => text
  | argumentsRejected workspace => "Invalid arguments for " ++ workspace
  | analysisFailed workspace => "Analysis of " ++ workspace ++ " failed"
  | rerunFailed => "Re-run failed"

/-- The line of a notice in a log. -/
def line (n : Notice) : String := n.severity.word ++ ": " ++ n.message

end Notice
end CodeCensus
