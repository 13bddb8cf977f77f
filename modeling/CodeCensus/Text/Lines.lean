/-!
# Lines

A text is divided at line feeds. A line feed at the very end closes the last line and starts no further
one, so the number of lines is what a line-by-line reader counts.

Contents: `segments` (the parts between line feeds), `lineChars`, `splitLines`, `joinLines`, `shownLines`.
-/

namespace CodeCensus
namespace Text

/-- One character in front of a text whose first part and later parts are known. -/
def segmentStep (c : Char) (state : List Char × List (List Char)) : List Char × List (List Char) :=
  if c = '\n' then ([], state.1 :: state.2) else (c :: state.1, state.2)

/-- The parts of the text between line feeds; there is always one more part than line feeds. -/
def segments (cs : List Char) : List (List Char) :=
  let state := cs.foldr segmentStep ([], [])
  state.1 :: state.2

/-- The lines of a text: its parts, without an empty part at the end. -/
def lineChars (cs : List Char) : List (List Char) :=
  let parts := segments cs
  if parts.getLast? = some [] then parts.dropLast else parts

/-- The lines of a text, without their line feeds. -/
def splitLines (content : String) : List String := (lineChars content.toList).map String.ofList

/-- The parts joined by line feeds. -/
def joinLines (parts : List (List Char)) : List Char := List.intercalate ['\n'] parts

/-- A character ends a line where text is shown. -/
def endsShownLine (c : Char) : Bool :=
  (10 ≤ c.toNat && c.toNat ≤ 13) || (0x1c ≤ c.toNat && c.toNat ≤ 0x1e) ||
    c.toNat = 0x85 || c.toNat = 0x2028 || c.toNat = 0x2029

/-- The lines of a shown text; `line` holds the line so far, reversed. -/
def shownLinesFrom (line : List Char) : List Char → List String
  | [] => if line.isEmpty then [] else [String.ofList line.reverse]
  | '\r' :: '\n' :: rest => String.ofList line.reverse :: shownLinesFrom [] rest
  | c :: rest =>
    if endsShownLine c then String.ofList line.reverse :: shownLinesFrom [] rest
    else shownLinesFrom (c :: line) rest

/-- The lines of a text as it is shown, where every sort of line end counts. -/
def shownLines (s : String) : List String := shownLinesFrom [] s.toList

/-- The texts joined by line feeds. -/
def joinTexts (lines : List String) : String := String.intercalate "\n" lines

end Text
end CodeCensus
