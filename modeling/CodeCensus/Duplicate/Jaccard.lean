import CodeCensus.Number.Double
import Std.Data.HashSet

/-!
# Set similarity

The Jaccard coefficient of two finite sets: the size of their intersection over the size of their union,
as the nearest double. Two empty sets are alike, and an empty set shares nothing with any other.

Contents: `sharedCount`, `jaccard`, `sizeBound` (the largest coefficient that two sizes allow).
-/

namespace CodeCensus

variable {α : Type} [BEq α] [Hashable α]

/-- The number of elements in both sets. -/
def sharedCount (a b : Std.HashSet α) : Nat := (a.toList.filter b.contains).length

/-- The Jaccard coefficient of two sets. -/
def jaccard (a b : Std.HashSet α) : Double :=
  if a.isEmpty && b.isEmpty then Double.ofRatio false 1 1
  else if a.isEmpty || b.isEmpty then Double.zero
  else
    let shared := sharedCount a b
    Double.ofRatio false shared (a.size + b.size - shared)

/-- The quotient of the smaller over the larger size, which no coefficient of such sets exceeds. -/
def sizeBound (m n : Nat) : Double := Double.ofRatio false (min m n) (max m n)

end CodeCensus
