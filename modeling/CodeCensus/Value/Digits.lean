import CodeCensus.Value.Basic

/-!
# Integers with many digits

A host may refuse to write out integers with more digits than a limit. A value can be shown there if all integers
in it can.

Contents: `TooManyDigits`, `Value.digitsWithin`, `Value.displayWithin`.
-/

namespace CodeCensus

/-- An integer has more digits than are written out. -/
structure TooManyDigits where
  limit : Nat
  deriving DecidableEq, Repr

/-- The wording of the fault. -/
def TooManyDigits.message (fault : TooManyDigits) : String :=
  "Exceeds the limit (" ++ natDigits fault.limit ++
    " digits) for integer string conversion; use sys.set_int_max_str_digits() to increase the limit"

namespace Value

mutual

/-- No integer in the value has more than so many digits. -/
def digitsWithin (limit : Nat) : Value → Bool
  | int n => (natDigits n.natAbs).length ≤ limit
  | list items => itemsWithin limit items
  | tuple items => itemsWithin limit items
  | map entries => entriesWithin limit entries
  | set members => itemsWithin limit members
  | _ => true

/-- No integer in the items has more than so many digits. -/
def itemsWithin (limit : Nat) : List Value → Bool
  | [] => true
  | v :: rest => v.digitsWithin limit && itemsWithin limit rest

/-- No integer in the entries has more than so many digits. -/
def entriesWithin (limit : Nat) : List (Value × Value) → Bool
  | [] => true
  | e :: rest => entryWithin limit e && entriesWithin limit rest

/-- No integer in a key or its value has more than so many digits. -/
def entryWithin (limit : Nat) : Value × Value → Bool
  | (k, v) => k.digitsWithin limit && v.digitsWithin limit

end

end Value
end CodeCensus
