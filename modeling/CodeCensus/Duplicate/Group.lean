import CodeCensus.Language.Basic
import CodeCensus.Number.Basic
import CodeCensus.Source.Block
import CodeCensus.Source.Canonical
import CodeCensus.Source.Token
import CodeCensus.Language.Tables

/-!
# Files, locations and groups

What duplicate detection works on and what it reports: the record of an analysed file, a location in
one, and a group of at least two locations with identical or similar content.

Contents: `FileRecord`, `FileRecord.ofContent`, `DuplicateKind`, `Member`, `DuplicateGroup`.
-/

namespace CodeCensus

/-- A file analysed for duplication. -/
structure FileRecord where
  path : Path
  relativePath : String
  language : Language
  sizeBytes : Nat
  lines : Int
  contentHash : String
  blocks : List CodeBlock
  tokens : List String
  deriving Repr

namespace FileRecord

/-- The record of a file with the given content. -/
def ofContent (path : Path) (relativePath : String) (language : Language) (sizeBytes minLines : Nat)
    (content : String) : FileRecord :=
  let lines := Text.splitLines content
  { path, relativePath, language, sizeBytes
    lines := lines.length
    contentHash := CodeCensus.contentHash content
    blocks := extractBlocks (duplicateLanguages.profile language) minLines lines
    tokens := tokenize content }

/-- The entry of a file in a report. -/
def summary (r : FileRecord) : Value :=
  .ofFields [
    ("path", .text r.path.text),
    ("relativePath", .text r.relativePath),
    ("language", .text r.language.tag),
    ("lines", .int r.lines),
    ("sizeBytes", .nat r.sizeBytes),
    ("contentHash", .text r.contentHash),
    ("blocks", .nat r.blocks.length),
    ("tokens", .nat r.tokens.length)]

end FileRecord

/-- What the locations of a group have in common. -/
inductive DuplicateKind where
  | exactFile
  | exactBlock
  | similarFile
  | similarBlock
  deriving DecidableEq, Repr

namespace DuplicateKind

/-- The name of a kind in reports. -/
def tag : DuplicateKind → String
  | exactFile => "exact-file"
  | exactBlock => "exact-block"
  | similarFile => "similar-file"
  | similarBlock => "similar-block"

/-- Every kind. -/
def all : List DuplicateKind := [exactFile, exactBlock, similarFile, similarBlock]

/-- The kind with a given name. -/
def ofTag? (tag : String) : Option DuplicateKind := all.find? fun k => k.tag = tag

/-- The content is identical. -/
def isExact (k : DuplicateKind) : Bool := k = exactFile ∨ k = exactBlock

/-- The locations are blocks. -/
def isBlock (k : DuplicateKind) : Bool := k = exactBlock ∨ k = similarBlock

end DuplicateKind

/-- A location: a whole file, or a span of its lines. -/
structure Member where
  path : String
  lines : Int
  language : Language
  startLine : Option Int := none
  endLine : Option Int := none
  deriving DecidableEq, Repr

namespace Member

/-- A whole file. -/
def ofFile (r : FileRecord) : Member := ⟨r.relativePath, r.lines, r.language, none, none⟩

/-- A block of a file. -/
def ofBlock (r : FileRecord) (b : CodeBlock) : Member :=
  ⟨r.relativePath, b.lineCount, r.language, some b.startLine, some b.endLine⟩

/-- A line number, or nothing. -/
def lineValue : Option Int → Value
  | some n => .int n
  | none => .null

/-- The entry of a location in a report; a span is shown when it has a start. -/
def toValue (m : Member) : Value :=
  let span := match m.startLine with
    | some start => [("startLine", Value.int start), ("endLine", lineValue m.endLine)]
    | none => []
  .ofFields ([("path", .text m.path)] ++ span ++
    [("lines", .int m.lines), ("language", .text m.language.tag)])

end Member

/-- At least two locations with identical or similar content. -/
structure DuplicateGroup where
  kind : DuplicateKind
  first : Member
  second : Member
  others : List Member
  similarity : Value
  duplicateLines : Int
  hash : Option String
  content : Option String
  deriving Repr

namespace DuplicateGroup

/-- All locations of a group. -/
def members (g : DuplicateGroup) : List Member := g.first :: g.second :: g.others

/-- The group of the given locations, if there are at least two of them. -/
def ofMembers? (kind : DuplicateKind) (members : List Member) (similarity : Value)
    (duplicateLines : Int) (hash content : Option String) : Option DuplicateGroup :=
  match members with
  | first :: second :: others =>
    some ⟨kind, first, second, others, similarity, duplicateLines, hash, content⟩
  | _ => none

/-- The message about a group with fewer than two locations. -/
def tooSmallMessage (kind : DuplicateKind) : String :=
  "A " ++ kind.tag ++ " group needs at least 2 members"

/-- A field that is shown when it has a value. -/
def optionalField (name : String) : Option String → List (String × Value)
  | some s => [(name, .text s)]
  | none => []

/-- The entry of a group in a report. -/
def toValue (g : DuplicateGroup) : Value :=
  .ofFields ([
    ("type", .text g.kind.tag),
    ("similarity", g.similarity),
    ("duplicateLines", .int g.duplicateLines),
    ("members", .list (g.members.map Member.toValue))] ++
    optionalField "hash" g.hash ++ optionalField "content" g.content)

end DuplicateGroup
end CodeCensus
