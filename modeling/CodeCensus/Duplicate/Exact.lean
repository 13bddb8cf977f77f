import CodeCensus.Duplicate.Group

/-!
# Exact duplicates

Files are grouped by the hash of their canonical text, blocks by the hash of their trimmed lines, across
and within files. Groups come in the order in which their hash was first seen.

Contents: `groupBy`, `exactFileGroups`, `exactBlockGroups`.
-/

namespace CodeCensus

/-- The items under each key, keys in order of first occurrence and items in order. -/
def groupBy {α : Type} (key : α → String) (items : List α) : OrderedMap String (List α) :=
  items.foldl (fun m item => m.upsert (key item) [item] (· ++ [item])) .empty

/-- The group of the files with one hash, if there are at least two. -/
def exactFileGroup? (hash : String) (records : List FileRecord) : Option DuplicateGroup :=
  DuplicateGroup.ofMembers? .exactFile (records.map Member.ofFile) (.float (.ofInt 1))
    ((records.head?.map (·.lines)).getD 0) (some hash) none

/-- One group for each canonical text that several files share. -/
def exactFileGroups (records : List FileRecord) : List DuplicateGroup :=
  (groupBy FileRecord.contentHash records).entries.filterMap fun e => exactFileGroup? e.1 e.2

/-- Every block with the file it stands in, in discovery order. -/
def allBlocks (records : List FileRecord) : List (FileRecord × CodeBlock) :=
  records.flatMap fun r => r.blocks.map fun b => (r, b)

/-- The group of the blocks with one hash, if there are at least two. -/
def exactBlockGroup? (hash : String) (occurrences : List (FileRecord × CodeBlock)) :
    Option DuplicateGroup :=
  let firstBlock := occurrences.head?.map (·.2)
  DuplicateGroup.ofMembers? .exactBlock (occurrences.map fun o => Member.ofBlock o.1 o.2)
    (.float (.ofInt 1)) ((firstBlock.map CodeBlock.lineCount).getD 0) (some hash)
    (firstBlock.map CodeBlock.content)

/-- One group for each text that several blocks share. -/
def exactBlockGroups (records : List FileRecord) : List DuplicateGroup :=
  (groupBy (fun o : FileRecord × CodeBlock => o.2.hash) (allBlocks records)).entries.filterMap
    fun e => exactBlockGroup? e.1 e.2

end CodeCensus
