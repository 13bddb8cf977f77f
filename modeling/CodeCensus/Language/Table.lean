import CodeCensus.Language.Basic
import CodeCensus.Language.Profile
import CodeCensus.OrderedMap
import CodeCensus.Text.LowerCase
import CodeCensus.Tree.Path

/-!
# Language tables

A table gives each file name a language and each language a profile. Whole names are looked up first,
if the table matches whole names at all, then the suffix; letter case does not matter. The first
registration of a name or suffix wins.

Contents: `LanguageTable`, `register`, `classify`, `isSupported`, `profile`, `languages`, `patterns`.
-/

namespace CodeCensus

/-- File names to languages, and languages to profiles. -/
structure LanguageTable where
  fallback : Language
  matchNames : Bool
  registered : OrderedMap Language (List String)
  suffixes : OrderedMap String Language
  names : OrderedMap String Language
  profiles : OrderedMap Language Profile

namespace LanguageTable

/-- A table without entries. -/
def empty (fallback : Language) (matchNames : Bool) : LanguageTable :=
  ⟨fallback, matchNames, .empty, .empty, .empty, .empty⟩

/-- Enters one pattern: a suffix if it starts with a dot, and a whole name if the table has those. -/
def addPattern (language : Language) (t : LanguageTable) (pattern : String) : LanguageTable :=
  let key := Text.lower pattern
  { t with
    suffixes := if Text.startsWith pattern "." then t.suffixes.insertIfNew key language else t.suffixes
    names := if t.matchNames then t.names.insertIfNew key language else t.names }

/-- Registers a language with its patterns and, possibly, a profile. -/
def register (t : LanguageTable) (language : Language) (patterns : List String)
    (profile : Option Profile) : LanguageTable :=
  let entered := patterns.foldl (addPattern language) t
  { entered with
    registered := t.registered.insert language patterns
    profiles := match profile with
      | some p => t.profiles.insert language p
      | none => t.profiles }

/-- The language of a suffix, or the fallback. -/
def classifySuffix (t : LanguageTable) (name : String) : Language :=
  (t.suffixes.get? (Text.lower (Path.suffixOf name))).getD t.fallback

/-- The language of a file name. -/
def classifyName (t : LanguageTable) (name : String) : Language :=
  match if t.matchNames then t.names.get? (Text.lower name) else none with
  | some language => language
  | none => t.classifySuffix name

/-- The language of a path; only its last name counts. -/
def classify (t : LanguageTable) (path : Path) : Language := t.classifyName path.name

/-- The path has a language other than the fallback. -/
def isSupported (t : LanguageTable) (path : Path) : Bool := t.classify path ≠ t.fallback

/-- The profile of a language, empty when it has none. -/
def profile (t : LanguageTable) (language : Language) : Profile :=
  (t.profiles.get? language).getD default

/-- The registered languages, in order of first registration. -/
def languages (t : LanguageTable) : List Language := t.registered.keys

/-- The patterns of a language. -/
def patterns (t : LanguageTable) (language : Language) : List String :=
  (t.registered.get? language).getD []

end LanguageTable
end CodeCensus
