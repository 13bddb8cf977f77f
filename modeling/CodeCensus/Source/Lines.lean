import CodeCensus.Language.Profile
import CodeCensus.Text.Lines

/-!
# Kinds of lines

Every line of a source file is blank, a comment, or code. A line is judged by its trimmed text: blank
when nothing is left, a comment when it starts with a comment mark of its language.

Contents: `LineKind`, `lineKind`, `LineCounts`, `countLines`.
-/

namespace CodeCensus

/-- The kind of a source line. -/
inductive LineKind where
  | code
  | comment
  | blank
  deriving DecidableEq, Repr

/-- The kind of a trimmed line. -/
def trimmedKind (profile : Profile) (trimmed : String) : LineKind :=
  if trimmed.isEmpty then .blank
  else if profile.isComment trimmed then .comment
  else .code

/-- The kind of a line. -/
def lineKind (profile : Profile) (line : String) : LineKind := trimmedKind profile (Text.trim line)

/-- How many lines there are of each kind. -/
structure LineCounts where
  code : Nat
  comment : Nat
  blank : Nat
  deriving DecidableEq, Repr

/-- Counts one more line. -/
def LineCounts.add (counts : LineCounts) : LineKind → LineCounts
  | .code => { counts with code := counts.code + 1 }
  | .comment => { counts with comment := counts.comment + 1 }
  | .blank => { counts with blank := counts.blank + 1 }

/-- The number of lines of each kind. -/
def countLines (profile : Profile) (lines : List String) : LineCounts :=
  lines.foldl (fun counts line => counts.add (lineKind profile line)) ⟨0, 0, 0⟩

end CodeCensus
