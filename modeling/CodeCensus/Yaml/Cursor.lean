/-!
# Positions in a document

A cursor holds what is left of a document, with the index, line and column of its first character. The
end of the document reads as a NUL, which no document holds.

Contents: `Yaml.Cursor`, `peek`, `peekAt`, `advance`, `takeWhile`, `lineBreak`, and the character classes
of the notation.
-/

namespace CodeCensus
namespace Yaml

/-- What reads after the last character. -/
def endMark : Char := '\x00'

/-- The character ends a line. -/
def isBreak (c : Char) : Bool :=
  c = '\n' || c = '\r' || c = '\x85' || c = '\u2028' || c = '\u2029'

/-- The character ends a line or the document. -/
def isBreakOrEnd (c : Char) : Bool := c = endMark || isBreak c

/-- The character is a space or ends a line or the document. -/
def isSpaceOrEnd (c : Char) : Bool := c = ' ' || isBreakOrEnd c

/-- The character is a space or a tab or ends a line or the document. -/
def isGapOrEnd (c : Char) : Bool := c = '\t' || isSpaceOrEnd c

/-- The character may stand in an anchor or a directive name. -/
def isNameChar (c : Char) : Bool := c.isAlphanum || c = '-' || c = '_'

/-- The document may hold the character. -/
def isAllowed (c : Char) : Bool :=
  let n := c.toNat
  n = 0x09 || n = 0x0a || n = 0x0d || (0x20 ≤ n && n ≤ 0x7e) || n = 0x85 ||
    (0xa0 ≤ n && n ≤ 0xd7ff) || (0xe000 ≤ n && n ≤ 0xfffd) || (0x10000 ≤ n && n ≤ 0x10ffff)

/-- A position in a document. -/
structure Cursor where
  rest : List Char
  index : Nat
  line : Nat
  column : Nat

namespace Cursor

/-- The start of a document. -/
def start (cs : List Char) : Cursor := ⟨cs, 0, 0, 0⟩

/-- The character at the cursor. -/
def peek (s : Cursor) : Char := s.rest.head?.getD endMark

/-- The character `n` further on. -/
def peekAt (s : Cursor) (n : Nat) : Char := (s.rest.drop n).head?.getD endMark

/-- The next `n` characters. -/
def front (s : Cursor) (n : Nat) : List Char := s.rest.take n

/-- The character ends its line: a break, but not the first half of a carriage return and line feed. -/
def endsLine (c : Char) (rest : List Char) : Bool :=
  c ≠ '\r' && isBreak c || c = '\r' && rest.head? ≠ some '\n'

/-- One character further. -/
def advance (s : Cursor) : Cursor :=
  match s.rest with
  | [] => s
  | c :: rest =>
    if endsLine c rest then ⟨rest, s.index + 1, s.line + 1, 0⟩
    else if c = '\ufeff' then ⟨rest, s.index + 1, s.line, s.column⟩
    else ⟨rest, s.index + 1, s.line, s.column + 1⟩

/-- `n` characters further. -/
def advanceBy (s : Cursor) : Nat → Cursor
  | 0 => s
  | n + 1 => s.advance.advanceBy n

/-- The longest front whose characters all pass the test, and the cursor after it. -/
def takeWhile (s : Cursor) (p : Char → Bool) : List Char × Cursor :=
  let taken := s.rest.takeWhile p
  (taken, s.advanceBy taken.length)

/-- The cursor after the longest front whose characters all pass the test. -/
def skipWhile (s : Cursor) (p : Char → Bool) : Cursor := (s.takeWhile p).2

/-- The cursor after spaces. -/
def skipSpaces (s : Cursor) : Cursor := s.skipWhile (· = ' ')

/-- The cursor at the end of the line, when a comment starts here. -/
def skipComment (s : Cursor) : Cursor :=
  if s.peek = '#' then s.skipWhile fun c => !isBreakOrEnd c else s

/-- The line break at the cursor, as a line feed or a separator, and the cursor after it. -/
def lineBreak (s : Cursor) : List Char × Cursor :=
  let c := s.peek
  if c = '\r' || c = '\n' || c = '\x85' then
    (['\n'], if s.front 2 = ['\r', '\n'] then s.advanceBy 2 else s.advance)
  else if c = '\u2028' || c = '\u2029' then ([c], s.advance)
  else ([], s)

/-- A line of three marks, such as the one that ends a document, stands at the cursor. -/
def atMarker (s : Cursor) (marker : List Char) : Bool := s.front 3 = marker && isGapOrEnd (s.peekAt 3)

/-- A document starts or ends at the cursor. -/
def atDocumentMarker (s : Cursor) : Bool := s.atMarker ['-', '-', '-'] || s.atMarker ['.', '.', '.']

end Cursor
end Yaml
end CodeCensus
