import CodeCensus.Yaml.Tag
import CodeCensus.Yaml.Token

/-!
# Nodes of a document

The graph that the tokens of a document describe: scalars, sequences and mappings, each with its tag. Nodes
are numbered, and an alias is the number of the node that its anchor names; so nodes can be shared, and a
collection can hold itself.

Contents:
* `Content`, `Node`, `Graph`;
* `TreeState` (tokens left, tag handles, anchors and nodes so far);
* the grammar: `parseNode` and its families of entries;
* `parseDocument?` — the graph of a document and its root, if it has one.
-/

namespace CodeCensus
namespace Yaml

/-- What a node holds; other nodes are held by their numbers. -/
inductive Content where
  | scalar (text : String)
  | sequence (items : List Nat)
  | mapping (entries : List (Nat × Nat))
  deriving DecidableEq, Repr, Inhabited

/-- A node with its tag. -/
structure Node where
  tag : String
  content : Content
  deriving DecidableEq, Repr, Inhabited

/-- The nodes of a document, by number. -/
abbrev Graph := Array Node

/-- The node where nothing is written. -/
def Node.empty : Node := ⟨coreTag "null", .scalar ""⟩

/-- The node with a number. -/
def Graph.node (g : Graph) (id : Nat) : Node := (g[id]?).getD .empty

/-- Changes what a node holds. -/
def Graph.setContent (g : Graph) (id : Nat) (content : Content) : Graph :=
  g.modify id fun n => { n with content }

/-- Changes the tag of a node. -/
def Graph.setTag (g : Graph) (id : Nat) (tag : String) : Graph := g.modify id fun n => { n with tag }

/-! ## State -/

/-- What is left of a document and what has been read of it. -/
structure TreeState where
  tokens : List Token
  handles : List (String × String)
  anchors : List (String × Nat)
  nodes : Graph

namespace TreeState

/-- The next token; a scan that broke off gives its fault. -/
def peek (s : TreeState) : Except Fault Token :=
  match s.tokens with
  | [] => .ok .streamEnd
  | .broken fault :: _ => .error fault
  | t :: _ => .ok t

/-- The state after the next token. -/
def skip (s : TreeState) : TreeState := { s with tokens := s.tokens.tail }

/-- Takes the next token if it is the given one. -/
def accept? (s : TreeState) (t : Token) : Except Fault (Option TreeState) := do
  let next ← s.peek
  return if next = t then some s.skip else none

/-- Takes the next token, which has to be the given one. -/
def expect (s : TreeState) (t : Token) : Except Fault TreeState := do
  let next ← s.peek
  if next = t then return s.skip else throw .malformed

/-- The next token is one of those given. -/
def nextIsIn (s : TreeState) (ts : List Token) : Except Fault Bool := do
  let next ← s.peek
  return ts.contains next

/-- The node that an alias stands for. -/
def resolveAlias (s : TreeState) (name : String) : Except Fault Nat :=
  match s.anchors.find? fun a => a.1 = name with
  | some (_, id) => .ok id
  | none => .error .malformed

/-- Adds a node. -/
def add (s : TreeState) (node : Node) : Nat × TreeState :=
  (s.nodes.size, { s with nodes := s.nodes.push node })

/-- Adds the node where nothing is written. -/
def addEmpty (s : TreeState) : Nat × TreeState := s.add .empty

/-- Adds a node under an anchor, if there is one; a name can be used only once. -/
def addNamed (s : TreeState) (anchor : Option String) (node : Node) : Nat × TreeState :=
  let (id, s) := s.add node
  match anchor with
  | none => (id, s)
  | some name => (id, { s with anchors := (name, id) :: s.anchors })

/-- The anchor is new. -/
def checkAnchor (s : TreeState) : Option String → Except Fault Unit
  | none => .ok ()
  | some name => if s.anchors.any fun a => a.1 = name then .error .malformed else .ok ()

/-- Gives a sequence its items. -/
def fillSequence (s : TreeState) (id : Nat) (items : List Nat) : TreeState :=
  { s with nodes := s.nodes.setContent id (.sequence items) }

/-- Gives a mapping its entries. -/
def fillMapping (s : TreeState) (id : Nat) (entries : List (Nat × Nat)) : TreeState :=
  { s with nodes := s.nodes.setContent id (.mapping entries) }

end TreeState

/-! ## Properties of a node -/

/-- The full tag that a written tag stands for. -/
def expandTag (s : TreeState) (t : TagText) : Except Fault String :=
  match t.handle with
  | none => .ok t.rest
  | some handle =>
    match s.handles.find? fun h => h.1 = handle with
    | some (_, leading) => .ok (leading ++ t.rest)
    | none => .error .malformed

/-- The anchor and the tag in front of a node, in either order. -/
def parseProperties (s : TreeState) :
    Except Fault ((Option String × Option String) × TreeState) := do
  match ← s.peek with
  | .anchor name =>
    let s := s.skip
    match ← s.peek with
    | .tag t =>
      let tag ← expandTag s t
      return ((some name, some tag), s.skip)
    | _ => return ((some name, none), s)
  | .tag t =>
    let s' := s.skip
    match ← s'.peek with
    | .anchor name =>
      let tag ← expandTag s t
      return ((some name, some tag), s'.skip)
    | _ =>
      let tag ← expandTag s t
      return ((none, some tag), s')
  | _ => return ((none, none), s)

/-- The tag of a scalar: a plain one without a tag, and any with the tag `!`, is resolved by its text. -/
def scalarTag (plain : Bool) (tag : Option String) (text : String) : String :=
  match tag with
  | none => if plain then resolveTag text else coreTag "str"
  | some tag => if tag = "!" then resolveTag text else tag

/-- The tag of a collection. -/
def collectionTag (kind : String) (tag : Option String) : String :=
  match tag with
  | none => coreTag kind
  | some tag => if tag = "!" then coreTag kind else tag

/-! ## Grammar -/

/-- What stands in front of the content of a node. -/
structure Properties where
  anchor : Option String
  tag : Option String

namespace TreeState

/-- Adds a scalar with its properties. -/
def addScalar (s : TreeState) (p : Properties) (plain : Bool) (text : String) :
    Except Fault (Nat × TreeState) := do
  s.checkAnchor p.anchor
  return s.addNamed p.anchor ⟨scalarTag plain p.tag text, .scalar text⟩

/-- Adds a sequence with its properties; its items are still to be read. -/
def addSequence (s : TreeState) (p : Properties) : Except Fault (Nat × TreeState) := do
  s.checkAnchor p.anchor
  return s.addNamed p.anchor ⟨collectionTag "seq" p.tag, .sequence []⟩

/-- Adds a mapping with its properties; its entries are still to be read. -/
def addMapping (s : TreeState) (p : Properties) : Except Fault (Nat × TreeState) := do
  s.checkAnchor p.anchor
  return s.addNamed p.anchor ⟨collectionTag "map" p.tag, .mapping []⟩

end TreeState

mutual

/-- A node. Block collections are read only where `block` allows, and a sequence at the indentation of
    its key only where `indentless` does. -/
def parseNode : Nat → (block indentless : Bool) → TreeState → Except Fault (Nat × TreeState)
  | 0, _, _, _ => .error .malformed
  | fuel + 1, block, indentless, s => do
    match ← s.peek with
    | .alias name =>
      let id ← s.resolveAlias name
      return (id, s.skip)
    | _ =>
      let ((anchor, tag), s) ← parseProperties s
      let next ← s.peek
      parseContent fuel block indentless ⟨anchor, tag⟩ next s

/-- The content of a node after its properties. -/
def parseContent : Nat → (block indentless : Bool) → Properties → Token → TreeState →
    Except Fault (Nat × TreeState)
  | 0, _, _, _, _, _ => .error .malformed
  | fuel + 1, block, indentless, p, next, s =>
    if indentless && next = .blockEntry then do
      let (id, s) ← s.addSequence p
      let (items, s) ← parseIndentless fuel s
      return (id, s.fillSequence id items)
    else
      match next with
      | .scalar plain text => s.skip.addScalar p plain text
      | .flowSequenceStart => do
        let (id, s) ← s.skip.addSequence p
        let (items, s) ← parseFlowItems fuel true s
        return (id, s.fillSequence id items)
      | .flowMappingStart => do
        let (id, s) ← s.skip.addMapping p
        let (entries, s) ← parseFlowEntries fuel true s
        return (id, s.fillMapping id entries)
      | _ =>
        if block && next = .blockSequenceStart then do
          let (id, s) ← s.skip.addSequence p
          let (items, s) ← parseBlockItems fuel s
          return (id, s.fillSequence id items)
        else if block && next = .blockMappingStart then do
          let (id, s) ← s.skip.addMapping p
          let (entries, s) ← parseBlockEntries fuel s
          return (id, s.fillMapping id entries)
        else if p.anchor.isSome || p.tag.isSome then s.addScalar p true ""
        else .error .malformed

/-- A node, or nothing where one of the given tokens follows. -/
def parseOptional : Nat → (block indentless : Bool) → List Token → TreeState →
    Except Fault (Nat × TreeState)
  | 0, _, _, _, _ => .error .malformed
  | fuel + 1, block, indentless, stops, s => do
    if ← s.nextIsIn stops then return s.addEmpty else parseNode fuel block indentless s

/-- The items of a block sequence and its end. -/
def parseBlockItems : Nat → TreeState → Except Fault (List Nat × TreeState)
  | 0, _ => .error .malformed
  | fuel + 1, s => do
    match ← s.accept? .blockEntry with
    | some s =>
      let (item, s) ← parseOptional fuel true false [.blockEntry, .blockEnd] s
      let (items, s) ← parseBlockItems fuel s
      return (item :: items, s)
    | none =>
      let s ← s.expect .blockEnd
      return ([], s)

/-- The items of a sequence at the indentation of its key. -/
def parseIndentless : Nat → TreeState → Except Fault (List Nat × TreeState)
  | 0, _ => .error .malformed
  | fuel + 1, s => do
    match ← s.accept? .blockEntry with
    | some s =>
      let (item, s) ← parseOptional fuel true false [.blockEntry, .key, .value, .blockEnd] s
      let (items, s) ← parseIndentless fuel s
      return (item :: items, s)
    | none => return ([], s)

/-- The entries of a block mapping and its end. -/
def parseBlockEntries : Nat → TreeState → Except Fault (List (Nat × Nat) × TreeState)
  | 0, _ => .error .malformed
  | fuel + 1, s => do
    match ← s.accept? .key with
    | some s =>
      let (key, s) ← parseOptional fuel true true [.key, .value, .blockEnd] s
      let (value, s) ← match ← s.accept? .value with
        | some s => parseOptional fuel true true [.key, .value, .blockEnd] s
        | none => pure s.addEmpty
      let (entries, s) ← parseBlockEntries fuel s
      return ((key, value) :: entries, s)
    | none =>
      let s ← s.expect .blockEnd
      return ([], s)

/-- The items of a flow sequence and its end; a key makes an item a mapping of one entry. -/
def parseFlowItems : Nat → (first : Bool) → TreeState → Except Fault (List Nat × TreeState)
  | 0, _, _ => .error .malformed
  | fuel + 1, first, s => do
    match ← s.accept? .flowSequenceEnd with
    | some s => return ([], s)
    | none =>
      let s ← if first then pure s else s.expect .flowEntry
      match ← s.peek with
      | .key =>
        let (item, s) := s.skip.add ⟨coreTag "map", .mapping []⟩
        let (key, s) ← parseOptional fuel false false [.value, .flowEntry, .flowSequenceEnd] s
        let (value, s) ← match ← s.accept? .value with
          | some s => parseOptional fuel false false [.flowEntry, .flowSequenceEnd] s
          | none => pure s.addEmpty
        let (items, s) ← parseFlowItems fuel false (s.fillMapping item [(key, value)])
        return (item :: items, s)
      | .flowSequenceEnd => return ([], s.skip)
      | _ =>
        let (item, s) ← parseNode fuel false false s
        let (items, s) ← parseFlowItems fuel false s
        return (item :: items, s)

/-- The entries of a flow mapping and its end; an item without a colon is a key without a value. -/
def parseFlowEntries : Nat → (first : Bool) → TreeState →
    Except Fault (List (Nat × Nat) × TreeState)
  | 0, _, _ => .error .malformed
  | fuel + 1, first, s => do
    match ← s.accept? .flowMappingEnd with
    | some s => return ([], s)
    | none =>
      let s ← if first then pure s else s.expect .flowEntry
      match ← s.peek with
      | .key =>
        let (key, s) ← parseOptional fuel false false [.value, .flowEntry, .flowMappingEnd] s.skip
        let (value, s) ← match ← s.accept? .value with
          | some s => parseOptional fuel false false [.flowEntry, .flowMappingEnd] s
          | none => pure s.addEmpty
        let (entries, s) ← parseFlowEntries fuel false s
        return ((key, value) :: entries, s)
      | .flowMappingEnd => return ([], s.skip)
      | _ =>
        let (key, s) ← parseNode fuel false false s
        let (value, s) := s.addEmpty
        let (entries, s) ← parseFlowEntries fuel false s
        return ((key, value) :: entries, s)

end

/-! ## Documents -/

/-- The tag handles that every document has. -/
def defaultHandles : List (String × String) := [("!", "!"), ("!!", coreTag "")]

/-- The directives in front of a document: at most one version, and every handle once. -/
def parseDirectives : List Token → (versioned : Bool) → List (String × String) →
    Except Fault (List (String × String) × List Token)
  | .directive (.version major _) :: rest, versioned, handles =>
    if versioned || major ≠ 1 then .error .malformed else parseDirectives rest true handles
  | .directive (.tagHandle handle leading) :: rest, versioned, handles =>
    if handles.any fun h => h.1 = handle then .error .malformed
    else parseDirectives rest versioned (handles ++ [(handle, leading)])
  | .directive (.unknown _) :: rest, versioned, handles => parseDirectives rest versioned handles
  | tokens, _, handles => .ok (handles ++ defaultHandles, tokens)

/-- Only ends of documents are left. The directives of another document are still read. -/
def expectStreamEnd : List Token → Except Fault Unit
  | [] => .ok ()
  | .streamEnd :: _ => .ok ()
  | .documentEnd :: rest => expectStreamEnd rest
  | tokens => do
    let (handles, rest) ← parseDirectives tokens false []
    let _ ← TreeState.expect ⟨rest, handles, [], #[]⟩ .documentStart
    throw .malformed

/-- Enough fuel to read a list of tokens. -/
def grammarFuel (tokens : List Token) : Nat := 4 * tokens.length + 8

/-- A document that starts with directives or a start marker. -/
def parseExplicit (tokens : List Token) : Except Fault (Nat × TreeState) := do
  let (handles, rest) ← parseDirectives tokens false []
  let s ← TreeState.expect ⟨rest, handles, [], #[]⟩ .documentStart
  match ← s.peek with
  | .directive _ | .documentStart | .documentEnd | .streamEnd => return s.addEmpty
  | _ => parseNode (grammarFuel tokens) true false s

/-- The graph of a document and the number of its root, if it has one. -/
def parseDocument? (tokens : List Token) : Except Fault (Option (Graph × Nat)) := do
  let s : TreeState := ⟨tokens, defaultHandles, [], #[]⟩
  match ← s.peek with
  | .streamEnd => return none
  | .directive _ | .documentStart =>
    let (root, after) ← parseExplicit tokens
    expectStreamEnd after.tokens
    return some (after.nodes, root)
  | _ =>
    let (root, after) ← parseNode (grammarFuel tokens) true false s
    expectStreamEnd after.tokens
    return some (after.nodes, root)

end Yaml
end CodeCensus
