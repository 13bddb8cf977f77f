import CodeCensus.Text.Utf8
import CodeCensus.Yaml.ScalarText
import CodeCensus.Yaml.Stream
import CodeCensus.Yaml.Token

/-!
# From characters to tokens

The tokens of a document. Block structure comes from indentation: a deeper column opens a block, a
shallower one closes those that it leaves. A key is recognised only when the colon after it is met, so
the scan remembers where a key may have started and puts the key token in front of it afterwards. A token
is handed out once no key can start at it any more; a fault takes the place of the first token that has
not been handed out.

Contents:
* `PossibleKey`, `ScanState` and its bookkeeping of indentation and keys;
* directives, anchors and tags;
* `ScanState.fetchToken` (the token at the cursor), `scanTokens`.
-/

namespace CodeCensus
namespace Yaml

/-- Where a key may have started. -/
structure PossibleKey where
  tokenNumber : Nat
  required : Bool
  index : Nat
  line : Nat
  column : Nat

/-- The state of a scan. -/
structure ScanState where
  cursor : Cursor
  tokens : Array Token
  flowLevel : Int
  indent : Int
  indents : List Int
  allowKey : Bool
  keys : List (Int × PossibleKey)
  limit : Nat
  wall : Option Fault

namespace ScanState

/-- The start of a document. -/
def start (stream : Stream) : ScanState :=
  ⟨.start stream.chars, #[], 0, -1, [], true, [], stream.chars.length + 2, stream.wall⟩

/-- The document is malformed at the cursor. -/
def refuse {α : Type} (s : ScanState) : Except ScanFault α := s.cursor.refuse

/-- The scan is inside brackets or braces. -/
def inFlow (s : ScanState) : Bool := s.flowLevel ≠ 0

/-- Adds a token. -/
def push (s : ScanState) (t : Token) : ScanState := { s with tokens := s.tokens.push t }

/-- Puts a token in front of the token with number `n`. -/
def insert (s : ScanState) (n : Nat) (t : Token) : ScanState :=
  { s with tokens := (s.tokens.extract 0 n).push t ++ s.tokens.extract n s.tokens.size }

/-- Adds a token and moves the cursor. -/
def emit (s : ScanState) (t : Token) (c : Cursor) : ScanState :=
  { s with tokens := s.tokens.push t, cursor := c }

/-! ## Keys -/

/-- The key that may have started at the current level. -/
def keyHere? (s : ScanState) : Option PossibleKey :=
  (s.keys.find? fun e => e.1 = s.flowLevel).map (·.2)

/-- Forgets the possible key of the current level; a required one cannot be forgotten. -/
def dropKey (s : ScanState) : Except ScanFault ScanState :=
  match s.keyHere? with
  | some k =>
    if k.required then s.refuse
    else .ok { s with keys := s.keys.filter fun e => e.1 ≠ s.flowLevel }
  | none => .ok s

/-- Remembers that a key may start here. -/
def saveKey (s : ScanState) : Except ScanFault ScanState :=
  if s.allowKey then do
    let required := !s.inFlow && s.indent = s.cursor.column
    let t ← s.dropKey
    let key : PossibleKey :=
      ⟨t.tokens.size, required, s.cursor.index, s.cursor.line, s.cursor.column⟩
    return { t with keys := (t.flowLevel, key) :: t.keys }
  else .ok s

/-- The key is out of reach: on an earlier line, or too far back. -/
def isStale (s : ScanState) (k : PossibleKey) : Bool :=
  k.line ≠ s.cursor.line || 1024 < s.cursor.index - k.index

/-- Forgets the keys that are out of reach. -/
def dropStaleKeys (s : ScanState) : Except ScanFault ScanState :=
  if s.keys.any fun e => s.isStale e.2 && e.2.required then s.refuse
  else .ok { s with keys := s.keys.filter fun e => !s.isStale e.2 }

/-! ## Indentation -/

/-- Closes the blocks that are deeper than a column. -/
def closeBlocks (column : Int) : List Int → Int → Array Token → Int × List Int × Array Token
  | [], indent, tokens => (indent, [], tokens)
  | outer :: rest, indent, tokens =>
    if column < indent then closeBlocks column rest outer (tokens.push .blockEnd)
    else (indent, outer :: rest, tokens)

/-- Closes the blocks that are deeper than a column; flow collections have none. -/
def unwind (s : ScanState) (column : Int) : ScanState :=
  if s.inFlow then s
  else
    let (indent, indents, tokens) := closeBlocks column s.indents s.indent s.tokens
    { s with indent, indents, tokens }

/-- Opens a block at a column if it is deeper than the current one. -/
def deepen (s : ScanState) (column : Nat) : Bool × ScanState :=
  if s.indent < column then
    (true, { s with indents := s.indent :: s.indents, indent := column })
  else (false, s)

/-- Opens a block at the cursor, with its token, if it is deeper than the current one. -/
def openBlock (s : ScanState) (t : Token) : ScanState :=
  let (opened, s) := s.deepen s.cursor.column
  if opened then s.push t else s

/-! ## Blanks between tokens -/

/-- Skips spaces, comments and line breaks; a line break allows a key again outside flow. -/
def skipBlanks : Nat → ScanState → ScanState
  | 0, s => s
  | fuel + 1, s =>
    let c := s.cursor.skipSpaces.skipComment
    if isBreak c.peek then
      skipBlanks fuel
        { s with cursor := c.lineBreak.2, allowKey := if s.inFlow then s.allowKey else true }
    else { s with cursor := c }

/-- Skips a byte order mark at the start, then blanks. -/
def toNextToken (s : ScanState) : ScanState :=
  let s := if s.cursor.index = 0 && s.cursor.peek = '\ufeff' then
      { s with cursor := s.cursor.advance }
    else s
  skipBlanks s.limit s

end ScanState

/-! ## Directives, anchors and tags -/

/-- A name of a directive or an anchor. -/
def scanName (s : Cursor) : Except ScanFault (String × Cursor) :=
  let (name, after) := s.takeWhile isNameChar
  if name.isEmpty then after.refuse else .ok (String.ofList name, after)

/-- A number in a version directive. -/
def scanVersionNumber (s : Cursor) : Except ScanFault (Nat × Cursor) :=
  let (digits, after) := s.takeWhile Char.isDigit
  if digits.isEmpty then after.refuse
  else .ok (digits.foldl (fun n c => 10 * n + (c.toNat - '0'.toNat)) 0, after)

/-- The value of a version directive. -/
def scanVersion (s : Cursor) : Except ScanFault (Directive × Cursor) := do
  let (major, t) ← scanVersionNumber s.skipSpaces
  if t.peek ≠ '.' then t.refuse
  let (minor, after) ← scanVersionNumber t.advance
  if isSpaceOrEnd after.peek then return (.version major minor, after) else after.refuse

/-- A tag handle: one or two exclamation marks, with a name between two. -/
def scanHandle (s : Cursor) : Except ScanFault (String × Cursor) :=
  if s.peek ≠ '!' then s.refuse
  else if s.peekAt 1 = ' ' then .ok ("!", s.advance)
  else
    let (name, after) := s.advance.takeWhile isNameChar
    if after.peek = '!' then .ok ("!" ++ String.ofList name ++ "!", after.advance)
    else after.refuse

/-- The character may stand in a tag. -/
def isTagChar (c : Char) : Bool :=
  c.isAlphanum || ['-', ';', '/', '?', ':', '@', '&', '=', '+', '$', ',', '_', '.', '!', '~', '*',
    '\x27', '(', ')', '[', ']', '%'].contains c

/-- Bytes written as percent signs with two hexadecimal digits each. -/
def scanTagBytes : Nat → Cursor → List UInt8 → Except ScanFault (List UInt8 × Cursor)
  | 0, s, found => .ok (found.reverse, s)
  | fuel + 1, s, found =>
    if s.peek = '%' then
      match hexValue? (s.peekAt 1), hexValue? (s.peekAt 2) with
      | some a, some b => scanTagBytes fuel (s.advanceBy 3) (UInt8.ofNat (16 * a + b) :: found)
      | _, _ => s.refuse
    else .ok (found.reverse, s)

/-- The characters of a tag, escaped bytes decoded. -/
def scanTagChars (limit : Nat) : Nat → Cursor → List Char → Except ScanFault (List Char × Cursor)
  | 0, s, found => .ok (found, s)
  | fuel + 1, s, found =>
    if s.peek = '%' then do
      let (bytes, after) ← scanTagBytes limit s []
      match Text.decodeUtf8 bytes with
      | .ok cs => scanTagChars limit fuel after (found ++ cs)
      | .error _ => after.refuse
    else if isTagChar s.peek then scanTagChars limit fuel s.advance (found ++ [s.peek])
    else .ok (found, s)

/-- The rest of a tag after its handle; something has to stand there. -/
def scanTagRest (limit : Nat) (s : Cursor) : Except ScanFault (String × Cursor) := do
  if !isTagChar s.peek then s.refuse
  let (cs, after) ← scanTagChars limit limit s []
  return (String.ofList cs, after)

/-- The value of a tag directive. -/
def scanTagDirective (limit : Nat) (s : Cursor) : Except ScanFault (Directive × Cursor) := do
  let (handle, t) ← scanHandle s.skipSpaces
  if t.peek ≠ ' ' then t.refuse
  let (leading, after) ← scanTagRest limit t.skipSpaces
  if isSpaceOrEnd after.peek then return (.tagHandle handle leading, after) else after.refuse

/-- A directive, with the rest of its line. -/
def scanDirective (limit : Nat) (s : Cursor) : Except ScanFault (Directive × Cursor) := do
  let (name, t) ← scanName s.advance
  if !isSpaceOrEnd t.peek then t.refuse
  let (d, after) ←
    if name = "YAML" then scanVersion t
    else if name = "TAG" then scanTagDirective limit t
    else pure (.unknown name, t.skipWhile fun c => !isBreakOrEnd c)
  let last ← ignoredLine after
  return (d, last)

/-- The name of an anchor or alias, whose mark stands at the cursor. -/
def scanAnchor (s : Cursor) : Except ScanFault (String × Cursor) := do
  let (name, after) ← scanName s.advance
  if isGapOrEnd after.peek || ['?', ':', ',', ']', '\x7d', '%', '@', '\x60'].contains after.peek then
    return (name, after)
  else after.refuse

/-- A second exclamation mark follows before the next space or line break. -/
def hasHandle : List Char → Bool
  | [] => false
  | c :: rest => if isSpaceOrEnd c then false else if c = '!' then true else hasHandle rest

/-- A tag. -/
def scanTag (limit : Nat) (s : Cursor) : Except ScanFault (TagText × Cursor) := do
  let next := s.peekAt 1
  let (tag, after) ←
    if next = '<' then do
      let (rest, t) ← scanTagRest limit (s.advanceBy 2)
      if t.peek ≠ '>' then t.refuse
      pure ((⟨none, rest⟩ : TagText), t.advance)
    else if isGapOrEnd next then pure (⟨none, "!"⟩, s.advance)
    else do
      let (handle, t) ← if hasHandle s.advance.rest then scanHandle s else pure ("!", s.advance)
      let (rest, last) ← scanTagRest limit t
      pure (⟨some handle, rest⟩, last)
  if isSpaceOrEnd after.peek then return (tag, after) else after.refuse

/-! ## Fetching tokens -/

namespace ScanState

/-- Ends all blocks, as directives and document markers do. -/
def endBlocks (s : ScanState) : Except ScanFault ScanState := do
  let t ← (s.unwind (-1)).dropKey
  return { t with allowKey := false }

/-- A document marker. -/
def fetchMarker (s : ScanState) (t : Token) : Except ScanFault ScanState := do
  let s ← s.endBlocks
  return s.emit t (s.cursor.advanceBy 3)

/-- The opening of a flow collection. -/
def fetchFlowStart (s : ScanState) (t : Token) : Except ScanFault ScanState := do
  let s ← s.saveKey
  return { s.emit t s.cursor.advance with flowLevel := s.flowLevel + 1, allowKey := true }

/-- The end of a flow collection. -/
def fetchFlowEnd (s : ScanState) (t : Token) : Except ScanFault ScanState := do
  let s ← s.dropKey
  return { s.emit t s.cursor.advance with flowLevel := s.flowLevel - 1, allowKey := false }

/-- A comma of a flow collection. -/
def fetchFlowEntry (s : ScanState) : Except ScanFault ScanState := do
  let s ← { s with allowKey := true }.dropKey
  return s.emit .flowEntry s.cursor.advance

/-- Opens a block for an entry or an explicit key, where that is allowed. -/
def blockFor (s : ScanState) (t : Token) : Except ScanFault ScanState :=
  if s.inFlow then .ok s
  else if !s.allowKey then s.refuse
  else .ok (s.openBlock t)

/-- The dash of a block sequence. -/
def fetchBlockEntry (s : ScanState) : Except ScanFault ScanState := do
  let s ← s.blockFor .blockSequenceStart
  let s ← { s with allowKey := true }.dropKey
  return s.emit .blockEntry s.cursor.advance

/-- The question mark of an explicit key. -/
def fetchKey (s : ScanState) : Except ScanFault ScanState := do
  let s ← s.blockFor .blockMappingStart
  let s ← { s with allowKey := !s.inFlow }.dropKey
  return s.emit .key s.cursor.advance

/-- The colon after a key: the key token goes in front of a key that started earlier. -/
def fetchValue (s : ScanState) : Except ScanFault ScanState := do
  let s ← match s.keyHere? with
    | some k =>
      let s := { s with keys := s.keys.filter fun e => e.1 ≠ s.flowLevel }
      let s := s.insert k.tokenNumber .key
      let (opened, s) := if s.inFlow then (false, s) else s.deepen k.column
      let s := if opened then s.insert k.tokenNumber .blockMappingStart else s
      pure { s with allowKey := false }
    | none => do
      let s ← s.blockFor .blockMappingStart
      { s with allowKey := !s.inFlow }.dropKey
  return s.emit .value s.cursor.advance

/-- An item that may be a key, read by `read`. -/
def fetchItem (s : ScanState) (read : Cursor → Except ScanFault (Token × Cursor)) :
    Except ScanFault ScanState := do
  let s ← s.saveKey
  let (t, after) ← read s.cursor
  return { s.emit t after with allowKey := false }

/-- A block scalar. -/
def fetchBlockScalar (s : ScanState) : Except ScanFault ScanState := do
  let s ← { s with allowKey := true }.dropKey
  let (cs, after) ← blockScalar s.limit s.indent s.cursor
  return s.emit (.scalar false (String.ofList cs)) after

/-- A plain scalar; a line that ends in it allows a key again. -/
def fetchPlain (s : ScanState) : Except ScanFault ScanState := do
  let s ← s.saveKey
  let (cs, crossed, after) := plainScalar s.inFlow s.indent s.limit s.cursor
  return { s.emit (.scalar true (String.ofList cs)) after with allowKey := crossed }

/-- The end of the document's text. -/
def fetchEnd (s : ScanState) : Except ScanFault ScanState := do
  let s ← s.endBlocks
  return s.push .streamEnd

/-- Characters that a plain scalar never starts with, some exceptions apart. -/
def indicators : List Char :=
  ['-', '?', ':', ',', '[', ']', '\x7b', '\x7d', '#', '&', '*', '!', '|', '>', '\x27', '\x22', '%', '@',
    '\x60']

/-- A plain scalar starts at the cursor. -/
def startsPlain (s : ScanState) : Bool :=
  let c := s.cursor.peek
  !(isGapOrEnd c || indicators.contains c) ||
    (!isGapOrEnd (s.cursor.peekAt 1) && (c = '-' || (!s.inFlow && (c = '?' || c = ':'))))

/-- The token that starts at the cursor. -/
def fetchToken (s : ScanState) : Except ScanFault ScanState :=
  let c := s.cursor.peek
  let first := s.cursor.column = 0
  let spaced := isGapOrEnd (s.cursor.peekAt 1)
  if c = '%' && first then do
    let s ← s.endBlocks
    let (d, after) ← scanDirective s.limit s.cursor
    return s.emit (.directive d) after
  else if first && s.cursor.atMarker ['-', '-', '-'] then s.fetchMarker .documentStart
  else if first && s.cursor.atMarker ['.', '.', '.'] then s.fetchMarker .documentEnd
  else if c = '[' then s.fetchFlowStart .flowSequenceStart
  else if c = '\x7b' then s.fetchFlowStart .flowMappingStart
  else if c = ']' then s.fetchFlowEnd .flowSequenceEnd
  else if c = '\x7d' then s.fetchFlowEnd .flowMappingEnd
  else if c = ',' then s.fetchFlowEntry
  else if c = '-' && spaced then s.fetchBlockEntry
  else if c = '?' && (s.inFlow || spaced) then s.fetchKey
  else if c = ':' && (s.inFlow || spaced) then s.fetchValue
  else if c = '*' then s.fetchItem fun p => do
    let (name, after) ← scanAnchor p
    return (.alias name, after)
  else if c = '&' then s.fetchItem fun p => do
    let (name, after) ← scanAnchor p
    return (.anchor name, after)
  else if c = '!' then s.fetchItem fun p => do
    let (t, after) ← scanTag s.limit p
    return (.tag t, after)
  else if (c = '|' || c = '>') && !s.inFlow then s.fetchBlockScalar
  else if c = '\x27' || c = '\x22' then s.fetchItem fun p => do
    let (cs, after) ← quotedScalar s.limit p
    return (.scalar false (String.ofList cs), after)
  else if s.startsPlain then s.fetchPlain
  else s.refuse

/-! ## Scanning on -/

/-- The next step of a scan: the blanks, the ends of blocks and the token after them. Tells whether the
    document has ended. -/
def step (s : ScanState) : Except ScanFault (ScanState × Bool) := do
  let s ← s.toNextToken.dropStaleKeys
  let s := s.unwind s.cursor.column
  if s.cursor.rest.isEmpty then
    let last ← s.fetchEnd
    return (last, true)
  else
    let next ← s.fetchToken
    return (next, false)

/-- The fault that shows when a scan gets to a position. One character is always read ahead. -/
def wallAt? (s : ScanState) (index : Nat) : Option Fault :=
  if s.limit ≤ index + 3 then s.wall else none

/-- The next step, with the fault of the characters that it has to read. -/
def readOn (s : ScanState) : Except Fault (ScanState × Bool) :=
  match s.step with
  | .error e => .error ((s.wallAt? e.index).getD e.fault)
  | .ok (next, ended) =>
    match s.wallAt? next.cursor.index with
    | some fault => .error fault
    | none => .ok (next, ended)

/-- The number of the first token at which a key may have started. -/
def firstKey? (s : ScanState) : Option Nat := (s.keys.map (·.2.tokenNumber)).min?

/-- The first `handed` tokens, and a fault in place of the next. -/
def breakOff (s : ScanState) (handed : Nat) (fault : Fault) : Array Token :=
  (s.tokens.extract 0 handed).push (.broken fault)

/-- Scans to the end of the document; `handed` counts the tokens that have been handed out. -/
def scanAll : Nat → (handed : Nat) → ScanState → Array Token
  | 0, _, s => s.tokens
  | fuel + 1, handed, s =>
    match if s.tokens.size ≤ handed then .ok (s, true)
      else s.dropStaleKeys.map fun s => (s, decide (s.firstKey? = some handed)) with
    | .error e => s.breakOff handed ((s.wallAt? e.index).getD e.fault)
    | .ok (s, false) => scanAll fuel (handed + 1) s
    | .ok (s, true) =>
      match s.readOn with
      | .error fault => s.breakOff handed fault
      | .ok (last, true) => last.tokens
      | .ok (next, false) => scanAll fuel handed next

end ScanState

/-- The tokens of a document. -/
def scanTokens (stream : Stream) : List Token :=
  ((ScanState.start stream).scanAll (8 * (stream.chars.length + 2)) 0).toList

end Yaml
end CodeCensus
