import CodeCensus.Calendar.Timestamp
import CodeCensus.Notice
import CodeCensus.Settings.Analysis

/-!
# Failed runs

Why a run gives no report, and what it says about it. Rejected settings and missing workspaces are
stated as they are; other failures are stated as failures of the analysis.

Contents: `RunFailure`, `RunFailure.message`, `RunFailure.notice`, `settingsNotice`.
-/

namespace CodeCensus

/-- Why a run with accepted settings gives no report. -/
inductive RunFailure where
  | workspace (error : WorkspaceError)
  | number (fault : NumberFault)
  | timestamp (fault : TimestampFault)
  deriving DecidableEq, Repr

/-- The wording of a failure. -/
def RunFailure.message : RunFailure → String
  | workspace e => e.message
  | number fault => fault.message
  | timestamp fault => fault.message

/-- The notice about a failure in the workspace with the given name. -/
def RunFailure.notice (workspaceText : String) : RunFailure → Notice
  | workspace (.missing given) => .failed (WorkspaceError.missing given).message
  | _ => .analysisFailed workspaceText

/-- The notice about rejected settings of the workspace with the given name. -/
def settingsNotice (workspaceText : String) (e : SettingsError) : Notice :=
  match e.kind with
  | .invalid => .failed e.message
  | .overflow | .notPath => .argumentsRejected workspaceText

end CodeCensus
