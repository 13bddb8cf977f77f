import CodeCensus.Text.Blank
import CodeCensus.Text.LowerCase

/-!
# Tokens

The similarity of two texts is measured on their tokens: the runs of characters between blanks and
delimiters, two characters or longer, in lower case.

Contents: `isDelimiter`, `isSeparator`, `tokenize`.
-/

namespace CodeCensus

/-- Brackets, braces, parentheses, semicolons, commas and full stops separate tokens. -/
def isDelimiter (c : Char) : Bool :=
  ['\x7b', '\x7d', '(', ')', ';', ',', '.', '[', ']'].contains c

/-- Blanks and delimiters separate tokens. -/
def isSeparator (c : Char) : Bool := Text.isBlank c || isDelimiter c

/-- The length below which a run is no token. -/
def minTokenLength : Nat := 2

/-- The tokens of a text, in order and with repeats. -/
def tokenize (text : String) : List String :=
  ((Text.fields isSeparator text.toList).filter fun run => minTokenLength ≤ run.length).map
    fun run => String.ofList (Text.lowerChars run)

end CodeCensus
