/-!
# Blank characters, trimming and fields

White space of every script, the removal of white space at both ends of a text, and the division of a
text into the maximal runs between separators.

Contents: `isBlank`, `trimWhere`, `trim`, `fields` (runs between separators), `words` (runs between blanks).
-/

namespace CodeCensus
namespace Text

/-- White space: controls and separators that end a word in any script. -/
def isBlank (c : Char) : Bool :=
  let n := c.toNat
  (0x09 ≤ n && n ≤ 0x0d) || (0x1c ≤ n && n ≤ 0x20) || n == 0x85 || n == 0xa0 || n == 0x1680 ||
    (0x2000 ≤ n && n ≤ 0x200a) || n == 0x2028 || n == 0x2029 || n == 0x202f || n == 0x205f ||
    n == 0x3000

/-- The characters without those at either end that pass the test. -/
def trimWhere (p : Char → Bool) (cs : List Char) : List Char :=
  ((cs.dropWhile p).reverse.dropWhile p).reverse

/-- The characters without the blanks at either end. -/
def trimChars (cs : List Char) : List Char := trimWhere isBlank cs

/-- The text without the blanks at either end. -/
def trim (s : String) : String := String.ofList (trimChars s.toList)

/-- Puts a finished run in front of the later runs, unless it is empty. -/
def closeRun (run : List Char) (later : List (List Char)) : List (List Char) :=
  if run.isEmpty then later else run :: later

/-- One character in front of a text whose first run and later runs are known. -/
def fieldStep (isSeparator : Char → Bool) (c : Char) (state : List Char × List (List Char)) :
    List Char × List (List Char) :=
  if isSeparator c then ([], closeRun state.1 state.2) else (c :: state.1, state.2)

/-- The maximal runs of characters that are not separators, in order. -/
def fields (isSeparator : Char → Bool) (cs : List Char) : List (List Char) :=
  let state := cs.foldr (fieldStep isSeparator) ([], [])
  closeRun state.1 state.2

/-- The maximal runs of characters that are not blank, in order. -/
def words (s : String) : List String := (fields isBlank s.toList).map String.ofList

end Text
end CodeCensus
