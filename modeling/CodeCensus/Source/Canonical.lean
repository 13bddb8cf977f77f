import CodeCensus.Digest
import CodeCensus.Text.Blank
import CodeCensus.Text.Lines
import CodeCensus.Text.LowerCase

/-!
# Canonical text of a file

Two files are exact duplicates when their canonical texts agree. Block comments go first, then line
comments of both styles; runs of blanks become single spaces, none at the ends, and letters become
lower-case. Comment marks inside string literals are not told apart, for either file of a pair.

Contents: `dropBlockComments`, `dropLineComments`, `canonicalText`, `contentHash`.
-/

namespace CodeCensus

/-- What follows the first end of a block comment. -/
def afterCommentEnd? : List Char → Option (List Char)
  | [] => none
  | '*' :: '/' :: rest => some rest
  | _ :: rest => afterCommentEnd? rest

/-- What follows the end of a comment is shorter than the comment with it. -/
theorem afterCommentEnd?_length_lt {cs rest : List Char} (h : afterCommentEnd? cs = some rest) :
    rest.length < cs.length := by
  fun_induction afterCommentEnd? cs with
  | case1 => simp at h
  | case2 r =>
    simp only [Option.some.injEq] at h
    subst h
    simp only [List.length_cons]
    omega
  | case3 c r _ ih =>
    have := ih h
    simp only [List.length_cons]
    omega

/-- What follows a closed block comment at the front of a text. -/
def afterComment? : List Char → Option (List Char)
  | '/' :: '*' :: rest => afterCommentEnd? rest
  | _ => none

/-- What follows a comment is shorter than the text that starts with it. -/
theorem afterComment?_length_lt {cs rest : List Char} (h : afterComment? cs = some rest) :
    rest.length < cs.length := by
  unfold afterComment? at h
  split at h
  · have := afterCommentEnd?_length_lt h
    simp only [List.length_cons]
    omega
  · simp at h

/-- Leaves out every closed block comment; `done` holds the text kept so far reversed. -/
def dropBlockCommentsFrom (done : List Char) (cs : List Char) : List Char :=
  match cs with
  | [] => done.reverse
  | c :: rest =>
    match h : afterComment? (c :: rest) with
    | some after =>
      have := afterComment?_length_lt h
      dropBlockCommentsFrom done after
    | none => dropBlockCommentsFrom (c :: done) rest
termination_by cs.length
decreasing_by
  · assumption
  · exact Nat.lt_succ_self _

/-- The text without its closed block comments. -/
def dropBlockComments (cs : List Char) : List Char := dropBlockCommentsFrom [] cs

/-- The part of a line before the first two slashes; `done` holds what was passed reversed. -/
def beforeSlashesFrom (done : List Char) : List Char → List Char
  | [] => done.reverse
  | '/' :: '/' :: _ => done.reverse
  | c :: rest => beforeSlashesFrom (c :: done) rest

/-- The part of a line before the first two slashes. -/
def beforeSlashes (line : List Char) : List Char := beforeSlashesFrom [] line

/-- The part of a line before the first number sign. -/
def beforeHash (line : List Char) : List Char := line.takeWhile (· ≠ '#')

/-- Cuts every line before its first line comment. -/
def dropLineComments (cs : List Char) : List Char :=
  Text.joinLines ((Text.segments cs).map fun line => beforeHash (beforeSlashes line))

/-- The canonical characters of a file. -/
def canonicalChars (cs : List Char) : List Char :=
  let stripped := dropLineComments (dropBlockComments cs)
  Text.lowerChars (List.intercalate [' '] (Text.fields Text.isBlank stripped))

/-- The canonical text of a file. -/
def canonicalText (content : String) : String := String.ofList (canonicalChars content.toList)

/-- The hash of the canonical text. -/
def contentHash (content : String) : String := hashText (canonicalText content)

end CodeCensus
