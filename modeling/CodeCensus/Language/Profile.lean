import CodeCensus.Language.PatternText
import CodeCensus.Number.Total
import CodeCensus.Text.Leading

/-!
# Language profiles

The text-level rules of one language: the marks that open a comment line, the patterns of function-like
and class-like declarations, and the keywords that add to the complexity of a file. All counts are
matches over raw text, so what stands in strings and comments is counted too.

Contents:
* `Profile`, `Profile.isComment`;
* `Profile.declarations` — how often a pattern occurs, or what is wrong with it;
* `keywordCount`, `Profile.complexity` — one plus every occurrence of a keyword between word boundaries.
-/

namespace CodeCensus

/-- The text-level rules of a language. -/
structure Profile where
  commentMarks : List String := []
  functionPattern : Option String := none
  classPattern : Option String := none
  keywords : List String := []
  deriving DecidableEq, Repr, Inhabited

/-- A declaration pattern that could not be read. -/
structure BadPattern where
  pattern : String
  fault : PatternFault
  deriving DecidableEq, Repr

/-- The keyword stands at the front of `rest`, between word boundaries; `before` is the character in
    front of it. -/
def keywordAt (keyword : List Char) (before : Option Char) (rest : List Char) : Bool :=
  keyword.isPrefixOf rest &&
    Text.isWordBoundary before rest.head? &&
    Text.isWordBoundary (keyword.getLast?.or before) (rest.drop keyword.length).head?

/-- Counts the keyword in `rest`, from left to right without overlap, on top of `found`. -/
def keywordCountFrom (keyword : List Char) (before : Option Char) (rest : List Char) (found : Nat) :
    Nat :=
  match rest with
  | [] => if keywordAt keyword before [] then found + 1 else found
  | c :: tail =>
    if keywordAt keyword before (c :: tail) then
      if keyword.isEmpty then keywordCountFrom keyword (some c) tail (found + 1)
      else keywordCountFrom keyword keyword.getLast? (tail.drop (keyword.length - 1)) (found + 1)
    else keywordCountFrom keyword (some c) tail found
termination_by rest.length
decreasing_by
  · simp
  · simp only [List.length_drop, List.length_cons]
    omega
  · simp

/-- The number of occurrences of a keyword between word boundaries. -/
def keywordCount (keyword text : String) : Nat := keywordCountFrom keyword.toList none text.toList 0

namespace Profile

/-- A trimmed line is a comment when it starts with a comment mark. -/
def isComment (p : Profile) (trimmed : String) : Bool := p.commentMarks.any (Text.startsWith trimmed)

/-- The number of matches of a declaration pattern; an absent or empty pattern matches nothing. -/
def declarations (pattern : Option String) (content : String) : Except BadPattern Nat :=
  match pattern with
  | none => .ok 0
  | some "" => .ok 0
  | some notated =>
    match Pattern.parse notated with
    | .ok p => .ok (p.count content)
    | .error fault => .error ⟨notated, fault⟩

/-- The number of function-like declarations. -/
def functions (p : Profile) (content : String) : Except BadPattern Nat :=
  declarations p.functionPattern content

/-- The number of class-like declarations. -/
def classes (p : Profile) (content : String) : Except BadPattern Nat :=
  declarations p.classPattern content

/-- Approximate cyclomatic complexity: one plus every occurrence of a keyword. -/
def complexity (p : Profile) (content : String) : Nat :=
  1 + sumCounts (p.keywords.map fun keyword => keywordCount keyword content)

end Profile
end CodeCensus
