import CodeCensus.Source.Canonical

/-!
# Removal of comments

Comments are taken out in two passes. The first looks for closed block comments from the front of the text on;
the second cuts every line at its first mark of a line comment. Both passes keep what they have passed in an
accumulator. Here they are described without it, by what they do at the front of a text.

## Contents
- `afterCommentEnd?_append`, `dropBlockComments_append` — a text without marks of block comments is passed whole;
- `dropBlockComments_of_comment`, `dropBlockComments_cons` — the first pass, at a comment and elsewhere;
- `cutLine`, `cutLine_cons` — the second pass, on one line.
-/

namespace CodeCensus

/-! ## Block comments -/

theorem afterCommentEnd?_cons {c : Char} {cs : List Char} (h : ¬(c = '*' ∧ cs.head? = some '/')) :
    afterCommentEnd? (c :: cs) = afterCommentEnd? cs := by
  rw [afterCommentEnd?]
  rintro rest rfl rfl
  exact h ⟨rfl, rfl⟩

/-- A text that does not close a comment is passed, if its last character does not close one with what follows. -/
theorem afterCommentEnd?_append {passed rest : List Char} (hpassed : ¬['*', '/'] <:+: passed)
    (hrest : rest.head? ≠ some '/') : afterCommentEnd? (passed ++ rest) = afterCommentEnd? rest := by
  induction passed with
  | nil => rfl
  | cons c passed ih =>
      rw [List.cons_append, afterCommentEnd?_cons, ih (fun h => hpassed (h.trans (List.suffix_cons _ _).isInfix))]
      rintro ⟨rfl, hslash⟩
      cases passed with
      | nil => exact hrest hslash
      | cons d passed =>
          obtain rfl : d = '/' := by simpa using hslash
          exact hpassed ⟨[], passed, rfl⟩

theorem afterComment?_eq_none {c : Char} {cs : List Char} (h : ¬(c = '/' ∧ cs.head? = some '*')) :
    afterComment? (c :: cs) = none := by
  unfold afterComment?
  split
  next rest heq =>
    obtain ⟨rfl, rfl⟩ := List.cons.inj heq
    exact absurd ⟨rfl, rfl⟩ h
  next => rfl

theorem dropBlockCommentsFrom_of_comment (done : List Char) {cs after : List Char}
    (h : afterComment? cs = some after) :
    dropBlockCommentsFrom done cs = dropBlockCommentsFrom done after := by
  cases cs with
  | nil => cases h
  | cons c cs =>
      rw [dropBlockCommentsFrom]
      split
      next after' h' =>
        obtain rfl : after' = after := Option.some.inj (h'.symm.trans h)
        rfl
      next h' => cases h'.symm.trans h

theorem dropBlockCommentsFrom_cons (done : List Char) {c : Char} {cs : List Char}
    (h : afterComment? (c :: cs) = none) :
    dropBlockCommentsFrom done (c :: cs) = dropBlockCommentsFrom (c :: done) cs := by
  rw [dropBlockCommentsFrom]
  split
  next after' h' => cases h'.symm.trans h
  next => rfl

/-- What was kept before stands in front. -/
theorem dropBlockCommentsFrom_append (done front cs : List Char) :
    dropBlockCommentsFrom (done ++ front) cs = front.reverse ++ dropBlockCommentsFrom done cs := by
  fun_induction dropBlockCommentsFrom done cs with
  | case1 done =>
      rw [dropBlockCommentsFrom, List.reverse_append]
  | case2 done c rest after h _ ih =>
      rw [dropBlockCommentsFrom_of_comment _ h, ih]
  | case3 done c rest h ih =>
      rw [dropBlockCommentsFrom_cons _ h, ← List.cons_append, ih]

@[simp] theorem dropBlockComments_nil : dropBlockComments [] = [] := by
  rw [dropBlockComments, dropBlockCommentsFrom, List.reverse_nil]

/-- A closed block comment is left out. -/
theorem dropBlockComments_of_comment {cs after : List Char} (h : afterComment? cs = some after) :
    dropBlockComments cs = dropBlockComments after :=
  dropBlockCommentsFrom_of_comment [] h

/-- Anything else is kept. -/
theorem dropBlockComments_cons {c : Char} {cs : List Char} (h : afterComment? (c :: cs) = none) :
    dropBlockComments (c :: cs) = c :: dropBlockComments cs := by
  unfold dropBlockComments
  rw [dropBlockCommentsFrom_cons [] h, ← List.nil_append [c], dropBlockCommentsFrom_append]
  rfl

/-- A text that opens no block comment is kept, if its last character opens none with what follows. -/
theorem dropBlockComments_append {kept rest : List Char} (hkept : ¬['/', '*'] <:+: kept)
    (hrest : rest.head? ≠ some '*') : dropBlockComments (kept ++ rest) = kept ++ dropBlockComments rest := by
  induction kept with
  | nil => rfl
  | cons c kept ih =>
      have hnone : afterComment? (c :: (kept ++ rest)) = none := by
        apply afterComment?_eq_none
        rintro ⟨rfl, hstar⟩
        cases kept with
        | nil => exact hrest hstar
        | cons d kept =>
            obtain rfl : d = '*' := by simpa using hstar
            exact hkept ⟨[], kept, rfl⟩
      rw [List.cons_append, dropBlockComments_cons hnone,
        ih (fun h => hkept (h.trans (List.suffix_cons _ _).isInfix)), List.cons_append]

/-! ## Line comments -/

/-- A line before its first line comment. -/
def cutLine (line : List Char) : List Char := beforeHash (beforeSlashes line)

theorem dropLineComments_eq (cs : List Char) :
    dropLineComments cs = Text.joinLines ((Text.segments cs).map cutLine) := rfl

theorem beforeSlashesFrom_append (done front line : List Char) :
    beforeSlashesFrom (done ++ front) line = front.reverse ++ beforeSlashesFrom done line := by
  fun_induction beforeSlashesFrom done line with
  | case1 done => rw [beforeSlashesFrom, List.reverse_append]
  | case2 done rest => rw [beforeSlashesFrom, List.reverse_append]
  | case3 done c rest h ih =>
      rw [beforeSlashesFrom, ← List.cons_append, ih]
      exact h

theorem beforeSlashes_cons {c : Char} {line : List Char} (h : ¬(c = '/' ∧ line.head? = some '/')) :
    beforeSlashes (c :: line) = c :: beforeSlashes line := by
  unfold beforeSlashes
  rw [beforeSlashesFrom, ← List.nil_append [c], beforeSlashesFrom_append]
  · rfl
  · rintro rest rfl rfl
    exact h ⟨rfl, rfl⟩

@[simp] theorem cutLine_slashes (line : List Char) : cutLine ('/' :: '/' :: line) = [] := rfl

@[simp] theorem cutLine_hash (line : List Char) : cutLine ('#' :: line) = [] := by
  have h : ¬('#' = '/' ∧ line.head? = some '/') := by simp
  rw [cutLine, beforeSlashes_cons h]
  rfl

/-- A character that starts no line comment is kept. -/
theorem cutLine_cons {c : Char} {line : List Char} (hslashes : ¬(c = '/' ∧ line.head? = some '/'))
    (hhash : c ≠ '#') : cutLine (c :: line) = c :: cutLine line := by
  rw [cutLine, beforeSlashes_cons hslashes, beforeHash, List.takeWhile_cons]
  simp [hhash, cutLine, beforeHash]

end CodeCensus
