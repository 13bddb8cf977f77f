import CodeCensus.Digest
import CodeCensus.Source.Lines

/-!
# Code blocks

A block is a maximal run of consecutive code lines. Its lines are kept trimmed, its span counts lines
from one, and its hash is taken over the trimmed lines joined by line feeds. Runs shorter than the
minimum are dropped.

Contents: `CodeBlock`, `extractBlocks`.
-/

namespace CodeCensus

/-- A maximal run of code lines. -/
structure CodeBlock where
  startLine : Nat
  endLine : Nat
  lines : List String
  hash : String
  deriving DecidableEq, Repr

namespace CodeBlock

/-- The number of lines. -/
def lineCount (b : CodeBlock) : Nat := b.lines.length

/-- The lines joined by line feeds. -/
def content (b : CodeBlock) : String := Text.joinTexts b.lines

/-- The block of the given trimmed lines, which follow line number `before` and end with line number
    `last`. -/
def ofLines (before last : Nat) (lines : List String) : CodeBlock :=
  ⟨before + 1, last, lines, hashText (Text.joinTexts lines)⟩

end CodeBlock

/-- The state of an extraction: the number of lines read, the number of lines in front of the latest
    run, that run reversed, and the finished blocks reversed. -/
structure BlockScan where
  read : Nat
  before : Nat
  run : List String
  done : List CodeBlock

namespace BlockScan

/-- Ends the current run: it becomes a block when it is long enough. -/
def close (minLines : Nat) (s : BlockScan) : BlockScan :=
  if minLines ≤ s.run.length then
    { s with run := [], done := CodeBlock.ofLines s.before s.read s.run.reverse :: s.done }
  else { s with run := [] }

/-- Adds a trimmed code line to the run, which starts here if it is empty. -/
def extend (s : BlockScan) (trimmed : String) : BlockScan :=
  { s with
    read := s.read + 1
    before := if s.run.isEmpty then s.read else s.before
    run := trimmed :: s.run }

/-- Reads one line: code extends the run, anything else ends it. -/
def step (profile : Profile) (minLines : Nat) (s : BlockScan) (line : String) : BlockScan :=
  let trimmed := Text.trim line
  match trimmedKind profile trimmed with
  | .code => s.extend trimmed
  | _ =>
    let closed := s.close minLines
    { closed with read := s.read + 1 }

end BlockScan

/-- The maximal runs of code lines of at least `minLines` lines, in file order. -/
def extractBlocks (profile : Profile) (minLines : Nat) (lines : List String) : List CodeBlock :=
  ((lines.foldl (BlockScan.step profile minLines) ⟨0, 0, [], []⟩).close minLines).done.reverse

end CodeCensus
