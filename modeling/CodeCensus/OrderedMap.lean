/-!
# Ordered maps

A finite map that remembers the order in which its keys were first inserted. Replacing the value of a
key keeps the key's place. Reports, settings documents and language tables all show their entries in
this order.

Contents: `OrderedMap`, `get?`, `upsert`, `insert`, `insertIfNew`, `keys`.
-/

namespace CodeCensus

/-- Key and value pairs in order of first insertion. -/
structure OrderedMap (κ : Type) (α : Type) where
  entries : List (κ × α)
  deriving Repr

namespace OrderedMap

variable {κ α : Type}

instance : Inhabited (OrderedMap κ α) := ⟨⟨[]⟩⟩

/-- The map without entries. -/
def empty : OrderedMap κ α := ⟨[]⟩

/-- The keys in order of first insertion. -/
def keys (m : OrderedMap κ α) : List κ := m.entries.map (·.1)

/-- The number of entries. -/
def size (m : OrderedMap κ α) : Nat := m.entries.length

variable [DecidableEq κ]

/-- The value stored under a key. -/
def get? (m : OrderedMap κ α) (key : κ) : Option α :=
  (m.entries.find? fun e => e.1 = key).map (·.2)

/-- The key has a value. -/
def contains (m : OrderedMap κ α) (key : κ) : Bool := m.entries.any fun e => e.1 = key

/-- Changes the value of a key, or appends the key with `new` when it is absent. -/
def upsert (m : OrderedMap κ α) (key : κ) (new : α) (change : α → α) : OrderedMap κ α :=
  if m.contains key then
    ⟨m.entries.map fun e => if e.1 = key then (e.1, change e.2) else e⟩
  else ⟨m.entries ++ [(key, new)]⟩

/-- Stores a value under a key, replacing the one that was there. -/
def insert (m : OrderedMap κ α) (key : κ) (value : α) : OrderedMap κ α :=
  m.upsert key value fun _ => value

/-- Stores a value under a key unless it already has one. -/
def insertIfNew (m : OrderedMap κ α) (key : κ) (value : α) : OrderedMap κ α :=
  m.upsert key value id

end OrderedMap
end CodeCensus
