import CodeCensus.Text.Pieces
import CodeCensus.Yaml.Cursor
import CodeCensus.Yaml.Fault

/-!
# Characters of a document

What can be read of a document. Characters that no document may hold are found when the block that they
stand in is read, and a file is read block by block while it is scanned; so a fault of the text comes to
light only when the scan gets there.

Contents: `Yaml.Stream`, `Stream.ofText`, `Stream.ofPieces`.
-/

namespace CodeCensus
namespace Yaml

/-- The characters of a document that can be read, and the fault behind them, if they are not all. -/
structure Stream where
  chars : List Char
  wall : Option Fault
  deriving DecidableEq, Repr

/-- The position of the first character that no document may hold. -/
def refusedIndex? (cs : List Char) : Option Nat := cs.findIdx? fun c => !isAllowed c

namespace Stream

/-- A text that is read as a whole. -/
def ofText (text : String) : Stream :=
  let cs := text.toList
  if cs.all isAllowed then ⟨cs, none⟩ else ⟨[], some .malformed⟩

/-- Characters with a fault in the block of a given position. The first two blocks are read before
    anything else. -/
def cutBefore (cs : List Char) (index : Nat) (fault : Fault) : Stream :=
  let block := Text.blockSize
  if index < 2 * block then ⟨[], some fault⟩ else ⟨cs.take (block * (index / block)), some fault⟩

/-- A file that is read block by block. -/
def ofPieces (p : Text.Piecewise) : Stream :=
  let whole : Stream := match p.error with
    | none => ⟨p.chars, none⟩
    | some _ => cutBefore p.chars p.chars.length .unreadable
  match refusedIndex? whole.chars with
  | none => whole
  | some index => cutBefore whole.chars index .malformed

end Stream
end Yaml
end CodeCensus
