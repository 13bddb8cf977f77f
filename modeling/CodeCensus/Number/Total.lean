/-!
# Totals

Contents: `sumCounts` — the sum of a list of counts; `sumIntegers` — the sum of a list of integers.
-/

namespace CodeCensus

/-- The sum of all counts. -/
def sumCounts (counts : List Nat) : Nat := counts.foldr (· + ·) 0

/-- The sum of all integers. -/
def sumIntegers (integers : List Int) : Int := integers.foldr (· + ·) 0

end CodeCensus
