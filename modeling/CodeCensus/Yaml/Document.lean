import CodeCensus.Yaml.Assembly
import CodeCensus.Yaml.Scan

/-!
# Documents

From the characters of a document to its value.

Contents: `Yaml.limitDepth`, `Yaml.loadStream`, `Yaml.loadText`.
-/

namespace CodeCensus
namespace Yaml

/-- The deepest nesting of collections that is read. -/
def maxDepth : Nat := 480

/-- The tokens up to the first collection that is nested too deep; `depth` collections are open. -/
def limitDepth (depth : Nat) : List Token → List Token
  | [] => []
  | t :: rest =>
    match t with
    | .flowSequenceStart | .flowMappingStart | .blockSequenceStart | .blockMappingStart =>
      if maxDepth ≤ depth then [.broken .endless] else t :: limitDepth (depth + 1) rest
    | .flowSequenceEnd | .flowMappingEnd | .blockEnd => t :: limitDepth (depth - 1) rest
    | _ => t :: limitDepth depth rest

/-- The value of a document, `parts` levels of which are to be taken apart; an empty one has the value
    nothing. -/
def loadStream (parts : Nat) (stream : Stream) : Except Fault Value := do
  match ← parseDocument? (limitDepth 0 (scanTokens stream)) with
  | none => return .null
  | some (g, root) => assemble g root parts

/-- The value of a text that holds a document. -/
def loadText (text : String) : Except Fault Value := loadStream 0 (.ofText text)

end Yaml
end CodeCensus
