import CodeCensus.Yaml.Fault

/-!
# Tokens of a document

Contents: `Yaml.Token`.
-/

namespace CodeCensus
namespace Yaml

/-- A directive in front of a document. -/
inductive Directive where
  | version (major minor : Nat)
  | tagHandle (handle : String) (leading : String)
  | unknown (name : String)
  deriving DecidableEq, Repr

/-- A tag as written: its handle, if any, and the rest. -/
structure TagText where
  handle : Option String
  rest : String
  deriving DecidableEq, Repr

/-- A token. The scan of a document that breaks off ends with its fault. -/
inductive Token where
  | directive (d : Directive)
  | documentStart
  | documentEnd
  | blockSequenceStart
  | blockMappingStart
  | blockEnd
  | flowSequenceStart
  | flowSequenceEnd
  | flowMappingStart
  | flowMappingEnd
  | blockEntry
  | flowEntry
  | key
  | value
  | alias (name : String)
  | anchor (name : String)
  | tag (t : TagText)
  | scalar (plain : Bool) (text : String)
  | streamEnd
  | broken (fault : Fault)
  deriving DecidableEq, Repr

end Yaml
end CodeCensus
