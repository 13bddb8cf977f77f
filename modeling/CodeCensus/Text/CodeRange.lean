/-!
# Ranges of code points

Character properties are tables of inclusive code point ranges in ascending order.

Contents: `CodeRange`, `ofPairs`, `memRanges`.
-/

namespace CodeCensus
namespace Text

/-- The code points from `first` to `last`, both included. -/
structure CodeRange where
  first : Nat
  last : Nat

/-- A table given as pairs of first and last code point. -/
def ofPairs (pairs : List (Nat × Nat)) : List CodeRange :=
  pairs.map fun p => ⟨p.1, p.2⟩

/-- The character lies in one of the ranges. -/
def memRanges (table : List CodeRange) (c : Char) : Bool :=
  table.any fun r => r.first ≤ c.toNat && c.toNat ≤ r.last

end Text
end CodeCensus
