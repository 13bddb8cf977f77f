import CodeCensus.Value.SetOrder
import CodeCensus.Yaml.Node
import CodeCensus.Yaml.Scalar

/-!
# Values of nodes

The value of a graph of nodes: scalars by their tags, sequences as lists, mappings as maps in which merge
keys bring in the entries of other mappings. Each node has one value, however often it is held. A scalar is
read when it is first met; a collection is filled after the level of the document that it was met in. So of
several faults the first by levels is reported, from the outermost collection inwards. Filling a mapping
changes its node: merges are done for good, and its default keys become texts.

Contents:
* `Made`, `Filling`, `Assembly`;
* `Graph.textOf`, `Graph.flatten`;
* `Assembly.make`, `Assembly.fill`, `Assembly.finish`;
* `Assembly.value` — the value of a node, with marks where a collection is inside itself.
-/

namespace CodeCensus
namespace Yaml

/-! ## Scalars -/

namespace Graph

/-- The entries of a mapping. -/
def entriesOf (g : Graph) (id : Nat) : List (Nat × Nat) :=
  match (g.node id).content with
  | .mapping entries => entries
  | _ => []

/-- The entry has a key with a given tag. -/
def hasKeyTag (g : Graph) (tag : String) (e : Nat × Nat) : Bool := (g.node e.1).tag = tag

/-- The text that a node stands for: that of a scalar, or the one under the default key of a mapping. -/
def textOf (g : Graph) : Nat → Nat → Except Fault String
  | 0, _ => .error .endless
  | fuel + 1, id =>
    match (g.node id).content with
    | .scalar text => .ok text
    | .sequence _ => .error .malformed
    | .mapping entries =>
      match entries.find? (g.hasKeyTag (coreTag "value")) with
      | some e => g.textOf fuel e.2
      | none => .error .malformed

/-- The value of a node that has no tag of a collection. A timestamp has to be written by the node
    itself. -/
def scalarValue (g : Graph) (id : Nat) : Except Fault Value := do
  let node := g.node id
  if (scalarValue? node.tag "").isNone then throw .malformed
  let text ← g.textOf (g.size + 1) id
  if node.tag = coreTag "timestamp" && node.content ≠ .scalar text then throw .notText
  (scalarValue? node.tag text).getD (.error .malformed)

/-! ## Merges -/

/-- The number of merge keys. -/
def countMerges (g : Graph) : Nat :=
  g.foldl (fun n node =>
    match node.content with
    | .mapping entries => n + entries.countP (g.hasKeyTag (coreTag "merge"))
    | _ => n) 0

/-- Makes the default keys among some entries texts. -/
def nameDefaults (g : Graph) (entries : List (Nat × Nat)) : Graph :=
  entries.foldl (fun g e =>
    if g.hasKeyTag (coreTag "value") e then g.setTag e.1 (coreTag "str") else g) g

/-- Does the merges of a mapping from the entry at `index` on; `merged` has been brought in before. The
    entries of a mapping, or of each mapping of a sequence, the last one first, go in front of the mapping's
    own. -/
def flattenFrom : Nat → Graph → (id index : Nat) → (merged : List (Nat × Nat)) → Except Fault Graph
  | 0, _, _, _, _ => .error .malformed
  | fuel + 1, g, id, index, merged =>
    let own := g.entriesOf id
    let plain := (own.drop index).takeWhile fun e => !g.hasKeyTag (coreTag "merge") e
    let g := g.nameDefaults plain
    let next := index + plain.length
    match own[next]? with
    | none => .ok (if merged.isEmpty then g else g.setContent id (.mapping (merged ++ own)))
    | some (_, value) => do
      let g := g.setContent id (.mapping (own.eraseIdx next))
      match (g.node value).content with
      | .mapping _ =>
        let g ← flattenFrom fuel g value 0 []
        flattenFrom fuel g id next (merged ++ g.entriesOf value)
      | .sequence items =>
        let (g, groups) ← items.foldlM (fun (g, groups) item =>
          match (g.node item).content with
          | .mapping _ => do
            let g ← flattenFrom fuel g item 0 []
            return (g, g.entriesOf item :: groups)
          | _ => throw .malformed) (g, [])
        flattenFrom fuel g id next (merged ++ groups.flatten)
      | .scalar _ => throw .malformed

/-- Does the merges of a mapping. -/
def flatten (g : Graph) (id : Nat) : Except Fault Graph := g.flattenFrom (g.countMerges + 2) id 0 []

end Graph

/-! ## Assembly -/

/-- What has been made of a node. -/
inductive Made where
  | scalar (value : Value)
  | collection
  deriving Inhabited

/-- What a collection is filled with, by the numbers of nodes. -/
inductive Filling where
  | items (ids : List Nat)
  | pairs (ids : List (Nat × Nat))
  | entries (ids : List (Nat × Nat))
  | members (ids : List Nat)
  deriving Inhabited

/-- The nodes of a document on their way to values; `waiting` holds the collections that were met and not
    filled, the last one first. -/
structure Assembly where
  graph : Graph
  made : Array (Option Made)
  filled : Array (Option Filling)
  waiting : List Nat

/-- The tag is one of a collection. -/
def isCollectionTag (tag : String) : Bool :=
  ["seq", "map", "omap", "pairs", "set"].any fun kind => tag = coreTag kind

namespace Assembly

/-- A graph of which nothing has been made. -/
def start (g : Graph) : Assembly :=
  ⟨g, Array.replicate g.size none, Array.replicate g.size none, []⟩

/-- What has been made of a node. -/
def made? (a : Assembly) (id : Nat) : Option Made := (a.made[id]?).getD none

/-- What a collection is filled with. -/
def filling? (a : Assembly) (id : Nat) : Option Filling := (a.filled[id]?).getD none

/-- Makes a scalar, or a collection that is still empty. A NaN is marked by its node. -/
def make (a : Assembly) (id : Nat) : Except Fault Assembly :=
  if (a.made? id).isSome then .ok a
  else if isCollectionTag (a.graph.node id).tag then
    .ok { a with made := a.made.setIfInBounds id (some .collection), waiting := id :: a.waiting }
  else do
    let value ← a.graph.scalarValue id
    return { a with made := a.made.setIfInBounds id (some (.scalar (value.marked (sharedNan + 1 + id)))) }

/-- Two nodes are the same key of a map. -/
def sameKey (a : Assembly) (i j : Nat) : Bool :=
  match a.made? i, a.made? j with
  | some (.scalar x), some (.scalar y) => x.sameKey y
  | _, _ => false

/-- Stores a value under a key; a key that is already there keeps its place and its first form. -/
def storeEntry (a : Assembly) (entries : List (Nat × Nat)) (e : Nat × Nat) : List (Nat × Nat) :=
  if entries.any fun o => a.sameKey o.1 e.1 then
    entries.map fun o => if a.sameKey o.1 e.1 then (o.1, e.2) else o
  else entries ++ [e]

/-- Makes a key; a collection cannot be one. -/
def makeKey (a : Assembly) (id : Nat) : Except Fault Assembly := do
  let a ← a.make id
  match a.made? id with
  | some (.scalar _) => return a
  | _ => throw .malformed

/-- Makes the entries of a mapping, merges included. -/
def makeEntries (a : Assembly) (id : Nat) : Except Fault (Assembly × List (Nat × Nat)) :=
  match (a.graph.node id).content with
  | .mapping _ => do
    let g ← a.graph.flatten id
    (g.entriesOf id).foldlM (fun (a, entries) e => do
      let a ← a.makeKey e.1
      let a ← a.make e.2
      return (a, a.storeEntry entries e)) ({ a with graph := g }, [])
  | _ => .error .malformed

/-- Makes the pairs of a sequence of mappings with one entry each. -/
def makePairs (a : Assembly) (id : Nat) : Except Fault (Assembly × List (Nat × Nat)) :=
  match (a.graph.node id).content with
  | .sequence items =>
    items.foldlM (fun (a, pairs) item =>
      match (a.graph.node item).content with
      | .mapping [e] => do
        let a ← a.make e.1
        let a ← a.make e.2
        return (a, pairs ++ [e])
      | _ => throw .malformed) (a, [])
  | _ => .error .malformed

/-- Makes the items of a sequence. -/
def makeItems (a : Assembly) (id : Nat) : Except Fault (Assembly × List Nat) :=
  match (a.graph.node id).content with
  | .sequence items => do
    let a ← items.foldlM make a
    return (a, items)
  | _ => .error .malformed

/-- Sets what a collection is filled with. -/
def setFilling (a : Assembly) (id : Nat) (f : Filling) : Assembly :=
  { a with filled := a.filled.setIfInBounds id (some f) }

/-- Fills a collection. -/
def fill (a : Assembly) (id : Nat) : Except Fault Assembly := do
  let tag := (a.graph.node id).tag
  if tag = coreTag "seq" then
    let (a, items) ← a.makeItems id
    return a.setFilling id (.items items)
  else if tag = coreTag "map" then
    let (a, entries) ← a.makeEntries id
    return a.setFilling id (.entries entries)
  else if tag = coreTag "set" then
    let (a, entries) ← a.makeEntries id
    return a.setFilling id (.members (entries.map (·.1)))
  else
    let (a, pairs) ← a.makePairs id
    return a.setFilling id (.pairs pairs)

/-- Fills the collections that wait, then those met in them, and so on. -/
def finish : Nat → Assembly → Except Fault Assembly
  | 0, a => .ok a
  | fuel + 1, a =>
    match a.waiting.reverse with
    | [] => .ok a
    | level => do
      let a ← level.foldlM fill { a with waiting := [] }
      finish fuel a

/-! ## Values -/

/-- The value of a scalar node. -/
def scalar (a : Assembly) (id : Nat) : Value :=
  match a.made? id with
  | some (.scalar v) => v
  | _ => .null

/-- The value of a node inside the collections of `path`. The outermost `parts` levels are values to be
    taken apart: none of them counts as being around its members. -/
def valueIn (a : Assembly) : Nat → (parts : Nat) → (path : List Nat) → Nat → Value
  | 0, _, _, _ => .null
  | fuel + 1, parts, path, id =>
    let inner := if parts = 0 then id :: path else []
    let member := a.valueIn fuel (parts - 1) inner
    match a.filling? id with
    | none => a.scalar id
    | some (.items ids) => if path.contains id then .listAgain else .list (ids.map member)
    | some (.pairs ids) =>
      if path.contains id then .listAgain
      else .list (ids.map fun e => .tuple [member e.1, member e.2])
    | some (.entries ids) =>
      if path.contains id then .mapAgain else .map (ids.map fun e => (a.scalar e.1, member e.2))
    | some (.members ids) => .set (slotOrder (ids.map a.scalar))

/-- The value of a node, `parts` levels of which are to be taken apart. -/
def value (a : Assembly) (parts : Nat) (id : Nat) : Value :=
  a.valueIn (a.graph.size + parts + 1) parts [] id

end Assembly

/-- The value of the root of a graph. -/
def assemble (g : Graph) (root parts : Nat) : Except Fault Value := do
  let a ← (Assembly.start g).make root
  let a ← a.finish (g.size + 1)
  return a.value parts root

end Yaml
end CodeCensus
