import CodeCensus.Settings.Analysis
import CodeCensus.Text.Offence
import CodeCensus.Yaml.Document

/-!
# Settings documents

A settings document has the sections `duplicates`, `metrics` and `run`. What it sets is laid over the
defaults section by section; unknown sections are noted and passed over.

Contents:
* `defaultDocument`;
* `DocumentError`, `overlayDocument`, `FileSystem.loadSettings`;
* `flattenThresholds` — the thresholds of both analyses as one map.
-/

namespace CodeCensus

/-! ## Defaults -/

/-- A table of thresholds as a section of a document. -/
def thresholdSection (table : List (String × Number)) : Value :=
  .ofFields (table.map fun e => (e.1, e.2.toValue))

/-- The document that holds for everything that is not set. -/
def defaultSections : List (Value × Value) :=
  [(.text "duplicates", thresholdSection duplicateTable),
    (.text "metrics", thresholdSection metricsTable),
    (.text "run", .ofFields [("workers", .null), ("timeout", .null), ("pruneCandidates", .bool true)])]

/-- The default document as a value. -/
def defaultDocument : Value := .map defaultSections

/-! ## Reading -/

/-- Why a settings document cannot be used. -/
inductive DocumentError where
  | unreadable (file : String) (fault : FileFault)
  | notUtf8 (error : Text.Utf8Error)
  | faulty (fault : Yaml.Fault)
  | rejected (error : SettingsError)
  deriving Repr

/-- The wording of an error. -/
def DocumentError.message : DocumentError → String
  | unreadable file fault => systemMessage fault file
  | notUtf8 e => e.message
  | faulty fault => fault.message
  | rejected e => e.message

/-- The entries of a map. -/
def mapEntries? : Value → Option (List (Value × Value))
  | .map entries => some entries
  | _ => none

/-- Lays sections over those of `document`, in order. -/
def overlaySections (file : String) :
    List (Value × Value) → (document : List (Value × Value)) →
      List Notice × Except SettingsError (List (Value × Value))
  | [], document => ([], .ok document)
  | (key, given) :: rest, document =>
    match Value.lookup? document key with
    | none =>
      let (notices, result) := overlaySections file rest document
      (.unknownSection key file :: notices, result)
    | some base =>
      match mapEntries? given with
      | none => ([], .error (.sectionNotMapping key))
      | some entries =>
        let merged := Value.map (Value.merge ((mapEntries? base).getD []) entries)
        overlaySections file rest (Value.store document key merged)

/-- Lays a document over the defaults. A value that counts as false is an empty document. -/
def overlayDocument (file : String) (given : Value) : List Notice × Except SettingsError Value :=
  let given := if given.truthy then given else .map []
  match mapEntries? given with
  | none => ([], .error (.notDocument file))
  | some sections =>
    match overlaySections file sections defaultSections with
    | (notices, .ok document) => (notices, .ok (.map document))
    | (notices, .error e) => (notices, .error e)

/-- The error of a document with a fault: a document that cannot be read has the error of its file. -/
def documentError (fault : Yaml.Fault) (error : Option Text.Utf8Error) : DocumentError :=
  match fault, error with
  | .unreadable, some e => .notUtf8 e
  | fault, _ => .faulty fault

/-- The value of a settings file. It is a map of sections, which are maps of settings. -/
def FileSystem.readDocument (fs : FileSystem) (path : Path) : Except DocumentError Value :=
  match fs.readBytes path with
  | .error fault => .error (.unreadable path.text fault)
  | .ok bytes =>
    let pieces := Text.decodePieces bytes.toList
    (Yaml.loadStream 2 (.ofPieces pieces)).mapError fun fault => documentError fault pieces.error

/-- Reads the settings file at a path and lays it over the defaults. -/
def FileSystem.loadSettings (fs : FileSystem) (path : Path) :
    List Notice × Except DocumentError Value :=
  match fs.readDocument path with
  | .error e => ([], .error e)
  | .ok given =>
    match overlayDocument path.text given with
    | (notices, .ok document) => (notices, .ok document)
    | (notices, .error e) => (notices, .error (.rejected e))

/-! ## Sections -/

/-- Why the sections of a document cannot be used. -/
inductive SectionError where
  | noDocument (given : Value)
  | noSection (given : Value)
  deriving Repr

/-- The wording of an error. -/
def SectionError.message : SectionError → String
  | noDocument given => "'" ++ given.fullTypeName ++ "' object has no attribute 'get'"
  | noSection given => "'" ++ given.fullTypeName ++ "' object is not a mapping"

/-- A section of a document; an absent one is an empty map. -/
def sectionOf (document : Value) (name : String) : Except SectionError Value :=
  match document with
  | .map sections => .ok ((Value.lookup? sections (.text name)).getD (.map []))
  | given => .error (.noDocument given)

/-- The entries of a section. -/
def sectionEntries (document : Value) (name : String) : Except SectionError (List (Value × Value)) := do
  match ← sectionOf document name with
  | .map entries => return entries
  | given => throw (.noSection given)

/-- The thresholds of both analyses as one map; those of the metrics win. -/
def flattenThresholds (document : Value) : Except SectionError (List (Value × Value)) := do
  let duplicates ← sectionEntries document "duplicates"
  let metrics ← sectionEntries document "metrics"
  return Value.merge duplicates metrics

end CodeCensus
