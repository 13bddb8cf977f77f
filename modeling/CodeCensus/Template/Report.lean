import CodeCensus.Notice
import CodeCensus.Template.Builtin
import CodeCensus.Template.Render
import CodeCensus.Text.Offence
import CodeCensus.Tree.Write

/-!
# Rendering reports

A report is rendered with the template for its kind. Templates are looked up by file name, first in a
directory of the user's, then among the built-in ones.

Contents:
* `TemplateError`;
* `FileSystem.findTemplate`, `FileSystem.hasTemplate`;
* `FileSystem.renderReport` — a report as text;
* `FileSystem.writeTemplates` — the built-in templates as files to start from.
-/

namespace CodeCensus

open Template

/-- Why a report cannot be rendered. -/
inductive TemplateError where
  | notFound (name : String)
  | unreadable (path : Path) (fault : FileFault)
  | notUtf8 (error : Text.Utf8Error)
  | malformed (fault : TemplateFault)
  | unrenderable (fault : RenderFault)
  deriving Repr

/-- The wording of an error. -/
def TemplateError.message : TemplateError → String
  | notFound name => name
  | unreadable path fault => systemMessage fault path.text
  | notUtf8 e => e.message
  | malformed fault => fault.message
  | unrenderable fault => fault.message

namespace FileSystem

/-! ## Finding templates -/

/-- The parts of a template name; a name that climbs out of its directory has none. -/
def templateParts? (name : String) : Option (List String) :=
  let parts := Path.names name
  if parts.contains ".." then none else some parts

/-- The bytes of a template in a directory. -/
def templateBytes? (fs : FileSystem) (directory : Path) (name : String) : Option ByteArray :=
  match templateParts? name with
  | none => none
  | some parts =>
    match fs.locate ⟨directory.anchor, directory.parts ++ parts⟩ with
    | .ok (_, .file content _) => some content
    | _ => none

/-- The template of a file. -/
def templateOfBytes (content : ByteArray) : Except TemplateError (List Part) :=
  match Text.decodeUtf8 content.toList with
  | .error e => .error (.notUtf8 e)
  | .ok cs =>
    (parseTemplate (String.ofList (Text.universalNewlines cs))).mapError .malformed

/-- The built-in template with a name. -/
def builtinTemplate (name : String) : Except TemplateError (List Part) :=
  match builtinTemplates.find? fun t => t.1 = name with
  | some (_, parts) => .ok parts
  | none => .error (.notFound name)

/-- The template with a name: the user's, or else the built-in one. -/
def findTemplate (fs : FileSystem) (directory : Option Path) (name : String) :
    Except TemplateError (List Piece) := do
  let parts ← match directory.bind fun d => fs.templateBytes? d name with
    | some content => templateOfBytes content
    | none => builtinTemplate name
  (buildTree parts).mapError .malformed

/-- There is a template with a name. -/
def hasTemplate (fs : FileSystem) (directory : Option Path) (name : String) :
    Except TemplateError Bool :=
  match fs.findTemplate directory name with
  | .ok _ => .ok true
  | .error (.notFound _) => .ok false
  | .error e => .error e

/-- The directory of the user's templates, if it is there, and a notice if it is not. -/
def templateDirectory (fs : FileSystem) (directory : Option Path) :
    Except TemplateError (List Notice × Option Path) :=
  match directory with
  | none => .ok ([], none)
  | some d =>
    match fs.exists? d with
    | .ok true => .ok ([], some d)
    | .ok false => .ok ([.templatesMissing d.text], none)
    | .error fault => .error (.unreadable d fault)

/-! ## Rendering -/

/-- What every template with a name has besides its variables. -/
def commonScope (name : String) : Scope :=
  [("range", .kind .range), ("dict", .kind .map), ("lipsum", .function none "generate_lorem_ipsum"),
    ("cycler", .kind .cycler), ("joiner", .kind .joiner), ("namespace", .kind .holder),
    ("self", .template name)]

/-- The variables of a report template. -/
def reportScope (name : String) (report : Value) (summaryOnly : Bool) : Scope :=
  [("report", .value report), ("summary_only", .value (.bool summaryOnly))] ++ commonScope name

/-- The name of the template for a kind of report. -/
def templateName (kind : String) : String := kind ++ ".md.j2"

/-- Renders a report of a kind, with the notices made on the way. -/
def renderReport (fs : FileSystem) (kind : String) (report : Value) (summaryOnly : Bool)
    (directory : Option Path) : List Notice × Except TemplateError String :=
  match fs.templateDirectory directory with
  | .error e => ([], .error e)
  | .ok (notices, found) =>
    match fs.findTemplate found (templateName kind) with
    | .error e => (notices, .error e)
    | .ok pieces =>
      let scope := reportScope (templateName kind) report summaryOnly
      (notices, (renderPieces scope pieces).mapError .unrenderable)

/-! ## Starting templates -/

/-- Writes files into a directory that is there, one after another. -/
def writeAll (fs : FileSystem) (directory : Path) :
    List (String × String) → List WrittenFile × FileSystem × Option TemplateError
  | [] => ([], fs, none)
  | (name, text) :: rest =>
    let path := directory.child name
    match fs.write path.text text.toUTF8 with
    | .error fault => ([], fs, some (.unreadable path fault))
    | .ok (place, after) =>
      let (written, last, error) := after.writeAll directory rest
      (⟨place, text⟩ :: written, last, error)

/-- Writes the built-in templates into a directory, which is made if it is missing. -/
def writeTemplates (fs : FileSystem) (directory : Path) :
    List WrittenFile × FileSystem × Option TemplateError :=
  match fs.makeDirectories directory with
  | .error (fault, path) => ([], fs, some (.unreadable path fault))
  | .ok made => made.writeAll directory (builtinTemplates.map fun t => (t.1, Template.written t.2))

end FileSystem
end CodeCensus
