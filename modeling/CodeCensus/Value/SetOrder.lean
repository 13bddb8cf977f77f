import CodeCensus.Value.Basic

/-!
# Order of sets

A set of numbers shows its members in the order of the slots that their remainders give them in a
table of a power of two. A slot that is taken sends a member on to the next one of its sequence of slots.
The members of every other set stay in the order in which they came.

Contents: `numberHash?`, `tableSize`, `slotOrder`.
-/

namespace CodeCensus

/-- The modulus of hashes: the Mersenne prime `2 ^ 61 - 1`. -/
def hashModulus : Nat := 2305843009213693951

/-- The hash of an integer: its remainder with its sign; `-1` is never a hash. -/
def integerHash (n : Int) : Int :=
  let r := Int.tmod n hashModulus
  if r = -1 then -2 else r

/-- The hash of a double, which agrees with that of an equal integer: two to the power 61 is one by the
    modulus. -/
def doubleHash? (x : Double) : Option Int :=
  match x with
  | .nan _ => none
  | .infinite negative => some (if negative then -314159 else 314159)
  | .finite negative mantissa exponent =>
    let n := mantissa * Nat.pow 2 (Int.emod exponent 61).toNat
    some (integerHash (if negative then -(n : Int) else n))

/-- The hash of a number. -/
def numberHash? (v : Value) : Option Int :=
  match v with
  | .int n => some (integerHash n)
  | .bool b => some (if b then 1 else 0)
  | .float x => doubleHash? x
  | _ => none

/-- The size of the table for a number of members: at least eight, and more than five thirds of it. -/
def tableSize (count : Nat) : Nat :=
  if 5 * count < 21 then 8 else Nat.pow 2 (Nat.log2 (2 * count) + 1)

/-- The first free slot among `i` and the `count` slots after it. -/
def freeSlot? (table : Array (Option Value)) (i count : Nat) : Option Nat :=
  ((List.range (count + 1)).map (i + ·)).find? fun j => (table[j]?.getD none).isNone

/-- The free slot for a member, from slot `i` on; `rest` holds the bits of its hash that are still to be
    used. -/
def slotFrom (table : Array (Option Value)) : Nat → (i rest : Nat) → Nat
  | 0, i, _ => i
  | fuel + 1, i, rest =>
    let mask := table.size - 1
    match freeSlot? table i (if i + 9 ≤ mask then 9 else 0) with
    | some j => j
    | none =>
      let rest := rest / 32
      slotFrom table fuel ((5 * i + 1 + rest) % table.size) rest

/-- Puts a member with its hash into the table. -/
def placeMember (table : Array (Option Value)) (hash : Int) (v : Value) : Array (Option Value) :=
  let bits := (Int.emod hash 18446744073709551616).toNat
  table.setIfInBounds (slotFrom table (2 * table.size + 64) (bits % table.size) bits) (some v)

/-- The members of a set in the order in which they are shown. -/
def slotOrder (members : List Value) : List Value :=
  match members.mapM fun v => (numberHash? v).map fun h => (h, v) with
  | none => members
  | some hashed =>
    let empty : Array (Option Value) := Array.replicate (tableSize members.length) none
    ((hashed.foldl (fun table e => placeMember table e.1 e.2) empty).toList).filterMap id

end CodeCensus
