import CodeCensus.Yaml.Cursor
import CodeCensus.Yaml.Fault

/-!
# Scalars of a document

Reading quoted, block and plain scalars: escapes, folding of line breaks, indentation and chomping.

Contents: `Cursor.refuse`, `quotedScalar`, `blockScalar`, `plainScalar`.
-/

namespace CodeCensus
namespace Yaml

/-- The document is malformed at the cursor. -/
def Cursor.refuse {α : Type} (s : Cursor) : Except ScanFault α := .error ⟨.malformed, s.index⟩

/-! ## Quoted scalars -/

/-- The character that an escape of one letter stands for. -/
def escapeLetter? (c : Char) : Option Char :=
  if c = '0' then some '\x00'
  else if c = 'a' then some '\x07'
  else if c = 'b' then some '\x08'
  else if c = 't' || c = '\t' then some '\t'
  else if c = 'n' then some '\n'
  else if c = 'v' then some '\x0b'
  else if c = 'f' then some '\x0c'
  else if c = 'r' then some '\r'
  else if c = 'e' then some '\x1b'
  else if c = ' ' || c = '\x22' || c = '\\' || c = '/' then some c
  else if c = 'N' then some '\x85'
  else if c = '_' then some '\xa0'
  else if c = 'L' then some '\u2028'
  else if c = 'P' then some '\u2029'
  else none

/-- The number of hexadecimal digits of a numeric escape. -/
def escapeWidth? (c : Char) : Option Nat :=
  if c = 'x' then some 2 else if c = 'u' then some 4 else if c = 'U' then some 8 else none

/-- The value of a hexadecimal digit. -/
def hexValue? (c : Char) : Option Nat :=
  if '0' ≤ c ∧ c ≤ '9' then some (c.toNat - '0'.toNat)
  else if 'a' ≤ c ∧ c ≤ 'f' then some (c.toNat - 'a'.toNat + 10)
  else if 'A' ≤ c ∧ c ≤ 'F' then some (c.toNat - 'A'.toNat + 10)
  else none

/-- The number that hexadecimal digits write. -/
def hexNumber? (cs : List Char) : Option Nat :=
  cs.foldl (fun acc c => do
    let n ← acc
    let d ← hexValue? c
    return 16 * n + d) (some 0)

/-- The character with the number that is written at the cursor. -/
def codePoint (s : Cursor) (n : Nat) : Except ScanFault Char :=
  if 0x7fffffff < n then .error ⟨.hugeCodePoint, s.index⟩
  else if 0x10ffff < n then .error ⟨.badCodePoint, s.index⟩
  else .ok (Char.ofNat n)

/-- Line breaks inside a quoted scalar, with the blanks around them left out. -/
def quotedBreaks : Nat → Cursor → List Char → Except ScanFault (List Char × Cursor)
  | 0, s, _ => s.refuse
  | fuel + 1, s, found =>
    if s.atDocumentMarker then s.refuse
    else
      let t := s.skipWhile fun c => c = ' ' || c = '\t'
      if isBreak t.peek then
        let (b, after) := t.lineBreak
        quotedBreaks fuel after (found ++ b)
      else .ok (found, t)

/-- Blanks inside a quoted scalar: kept as they are, or folded when they hold line breaks. -/
def quotedSpaces (fuel : Nat) (s : Cursor) : Except ScanFault (List Char × Cursor) :=
  let (blanks, t) := s.takeWhile fun c => c = ' ' || c = '\t'
  if t.peek = endMark then t.refuse
  else if isBreak t.peek then do
    let (b, after) := t.lineBreak
    let (breaks, last) ← quotedBreaks fuel after []
    if b ≠ ['\n'] then return (b ++ breaks, last)
    else if breaks.isEmpty then return ([' '], last)
    else return (breaks, last)
  else .ok (blanks, t)

/-- An escape whose backslash has been read. -/
def quotedEscape (fuel : Nat) (s : Cursor) : Except ScanFault (List Char × Cursor) :=
  let c := s.peek
  match escapeLetter? c, escapeWidth? c with
  | some e, _ => .ok ([e], s.advance)
  | none, some width => do
    let digits := s.advance.front width
    match if digits.length = width then hexNumber? digits else none with
    | none => s.refuse
    | some n =>
      let e ← codePoint s n
      return ([e], s.advance.advanceBy width)
  | none, none =>
    if isBreak c then quotedBreaks fuel s.lineBreak.2 [] else s.refuse

/-- The inside of a quoted scalar and its closing quote. -/
def quotedFrom (double : Bool) (limit : Nat) :
    Nat → Cursor → List Char → Except ScanFault (List Char × Cursor)
  | 0, s, _ => s.refuse
  | fuel + 1, s, found =>
    let (taken, t) := s.takeWhile fun c =>
      !(c = '\x27' || c = '\x22' || c = '\\' || isGapOrEnd c)
    let found := found ++ taken
    let c := t.peek
    if !double && c = '\x27' && t.peekAt 1 = '\x27' then
      quotedFrom double limit fuel (t.advanceBy 2) (found ++ ['\x27'])
    else if (double && c = '\x22') || (!double && c = '\x27') then .ok (found, t.advance)
    else if c = '\x27' || c = '\x22' || (!double && c = '\\') then
      quotedFrom double limit fuel t.advance (found ++ [c])
    else if double && c = '\\' then do
      let (e, after) ← quotedEscape limit t.advance
      quotedFrom double limit fuel after (found ++ e)
    else do
      let (blanks, after) ← quotedSpaces limit t
      quotedFrom double limit fuel after (found ++ blanks)

/-- A scalar in quotes, at its opening quote. -/
def quotedScalar (limit : Nat) (s : Cursor) : Except ScanFault (List Char × Cursor) :=
  quotedFrom (s.peek = '\x22') limit limit s.advance []

/-! ## Block scalars -/

/-- What happens to the line breaks at the end of a block scalar. -/
inductive Chomping where
  | strip
  | clip
  | keep
  deriving DecidableEq, Repr

/-- A chomping mark. -/
def chompingOf? (c : Char) : Option Chomping :=
  if c = '+' then some .keep else if c = '-' then some .strip else none

/-- An indentation mark; zero is refused. -/
def incrementOf (s : Cursor) : Except ScanFault (Option Nat × Cursor) :=
  let c := s.peek
  if '1' ≤ c ∧ c ≤ '9' then .ok (some (c.toNat - '0'.toNat), s.advance)
  else if c = '0' then s.refuse
  else .ok (none, s)

/-- The marks after the opening of a block scalar, in either order. -/
def blockMarks (s : Cursor) : Except ScanFault ((Chomping × Option Nat) × Cursor) := do
  let ((chomping, increment), after) ← match chompingOf? s.peek with
    | some chomping => do
      let (increment, after) ← incrementOf s.advance
      pure ((chomping, increment), after)
    | none => do
      let (increment, t) ← incrementOf s
      match increment, chompingOf? t.peek with
      | some n, some chomping => pure ((chomping, some n), t.advance)
      | _, _ => pure ((Chomping.clip, increment), t)
  if isSpaceOrEnd after.peek then return ((chomping, increment), after) else after.refuse

/-- The rest of a line that may hold a comment only, with its line break. -/
def ignoredLine (s : Cursor) : Except ScanFault Cursor :=
  let t := s.skipSpaces.skipComment
  if isBreakOrEnd t.peek then .ok t.lineBreak.2 else t.refuse

/-- Leading blank lines of a block scalar, and the deepest indentation among them. -/
def leadingBreaks : Nat → Cursor → List Char → Nat → List Char × Nat × Cursor
  | 0, s, found, deepest => (found, deepest, s)
  | fuel + 1, s, found, deepest =>
    if s.peek = ' ' then
      let t := s.advance
      leadingBreaks fuel t found (max deepest t.column)
    else if isBreak s.peek then
      let (b, t) := s.lineBreak
      leadingBreaks fuel t (found ++ b) deepest
    else (found, deepest, s)

/-- Spaces up to a column. -/
def skipIndent (column : Nat) : Nat → Cursor → Cursor
  | 0, s => s
  | fuel + 1, s =>
    if s.column < column && s.peek = ' ' then skipIndent column fuel s.advance else s

/-- Blank lines of a block scalar with a known indentation. -/
def blockBreaks (column limit : Nat) : Nat → Cursor → List Char → List Char × Cursor
  | 0, s, found => (found, s)
  | fuel + 1, s, found =>
    let t := skipIndent column limit s
    if isBreak t.peek then
      let (b, after) := t.lineBreak
      blockBreaks column limit fuel after (found ++ b)
    else (found, t)

/-- The lines of a block scalar: its text, the last line break and the blank lines after it. -/
def blockLines (folded : Bool) (column limit : Nat) :
    Nat → Cursor → (breaks found : List Char) → List Char × List Char × List Char × Cursor
  | 0, s, breaks, found => (found, [], breaks, s)
  | fuel + 1, s, breaks, found =>
    let solid := s.peek ≠ ' ' && s.peek ≠ '\t'
    let (line, t) := s.takeWhile fun c => !isBreakOrEnd c
    let found := found ++ breaks ++ line
    let (b, after) := t.lineBreak
    let (breaks, next) := blockBreaks column limit limit after []
    if next.column = column && next.peek ≠ endMark then
      let joined :=
        if folded && b = ['\n'] && solid && next.peek ≠ ' ' && next.peek ≠ '\t' then
          (if breaks.isEmpty then [' '] else [])
        else b
      blockLines folded column limit fuel next breaks (found ++ joined)
    else (found, b, breaks, next)

/-- A block scalar, at its opening mark; `parent` is the indentation around it. -/
def blockScalar (limit : Nat) (parent : Int) (s : Cursor) : Except ScanFault (List Char × Cursor) := do
  let folded := s.peek = '>'
  let ((chomping, increment), marked) ← blockMarks s.advance
  let body ← ignoredLine marked
  let least := max 1 (parent + 1).toNat
  let (column, breaks, first) := match increment with
    | none =>
      let (found, deepest, t) := leadingBreaks limit body [] 0
      (max least deepest, found, t)
    | some n =>
      let column := least + n - 1
      let (found, t) := blockBreaks column limit limit body []
      (column, found, t)
  let (text, last, after, next) :=
    if first.column = column && first.peek ≠ endMark then
      blockLines folded column limit limit first breaks []
    else ([], [], breaks, first)
  match chomping with
  | .strip => return (text, next)
  | .clip => return (text ++ last, next)
  | .keep => return (text ++ last ++ after, next)

/-! ## Plain scalars -/

/-- A plain scalar ends at the character `c`, which `next` follows. -/
def endsPlain (inFlow : Bool) (c next : Char) : Bool :=
  isGapOrEnd c ||
    (c = ':' && (isGapOrEnd next || (inFlow && [',', '[', ']', '\x7b', '\x7d'].contains next))) ||
    (inFlow && [',', '?', '[', ']', '\x7b', '\x7d'].contains c)

/-- The front of a plain scalar up to where it ends or a blank stands. -/
def plainRun (inFlow : Bool) (found : List Char) : List Char → List Char
  | [] => found.reverse
  | c :: rest =>
    if endsPlain inFlow c (rest.head?.getD endMark) then found.reverse
    else plainRun inFlow (c :: found) rest

/-- Blanks and line breaks after the first break inside a plain scalar; nothing when a document marker
    follows. -/
def plainBreaks : Nat → Cursor → List Char → Option (List Char) × Cursor
  | 0, s, found => (some found, s)
  | fuel + 1, s, found =>
    if s.peek = ' ' then plainBreaks fuel s.advance found
    else if isBreak s.peek then
      let (b, t) := s.lineBreak
      if t.atDocumentMarker then (none, t) else plainBreaks fuel t (found ++ b)
    else (some found, s)

/-- Blanks inside a plain scalar: what they stand for, whether a line ended, and the cursor after them.
    Nothing stands for the blanks in front of a document marker. -/
def plainSpaces (limit : Nat) (s : Cursor) : Option (List Char) × Bool × Cursor :=
  let (blanks, t) := s.takeWhile (· = ' ')
  if isBreak t.peek then
    let (b, after) := t.lineBreak
    if after.atDocumentMarker then (none, true, after)
    else
      match plainBreaks limit after [] with
      | (none, last) => (none, true, last)
      | (some breaks, last) =>
        let shown := if b ≠ ['\n'] then b ++ breaks else if breaks.isEmpty then [' '] else breaks
        (some shown, true, last)
  else (some blanks, false, t)

/-- A plain scalar, and whether a line ended in the blanks after its last part. -/
def plainFrom (inFlow : Bool) (indent : Int) (limit : Nat) :
    Nat → Cursor → (blanks found : List Char) → (crossed : Bool) → List Char × Bool × Cursor
  | 0, s, _, found, crossed => (found, crossed, s)
  | fuel + 1, s, blanks, found, crossed =>
    if s.peek = '#' then (found, crossed, s)
    else
      let run := plainRun inFlow [] s.rest
      if run.isEmpty then (found, crossed, s)
      else
        let found := found ++ blanks ++ run
        let (spaces, ended, t) := plainSpaces limit (s.advanceBy run.length)
        match spaces with
        | none => (found, ended, t)
        | some [] => (found, ended, t)
        | some shown =>
          if t.peek = '#' || (!inFlow && (t.column : Int) < indent) then (found, ended, t)
          else plainFrom inFlow indent limit fuel t shown found ended

/-- A plain scalar; `parent` is the indentation around it. -/
def plainScalar (inFlow : Bool) (parent : Int) (limit : Nat) (s : Cursor) :
    List Char × Bool × Cursor :=
  plainFrom inFlow (parent + 1) limit limit s [] [] false

end Yaml
end CodeCensus
