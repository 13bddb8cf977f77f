import CodeCensus.Proofs.CommentRemoval
import CodeCensus.Proofs.TextParts
import Mathlib.Data.List.Forall2

/-!
# Trailing comments

A line comment that is put at the end of a line leaves the canonical text of a file as it is. It may come to
stand inside a block comment and go with it, or after an earlier mark and be cut off with that, or be cut off
itself, all but the blank in front of it. What carries the argument is a relation between the two texts: one
is the other with comments at the ends of some lines. Both passes of the removal keep it, the first because
such a comment neither opens nor closes a block comment, and after the second the lines differ in blanks only.

## Contents
- `IsTrailingComment` — the comments that can be put at the end of a line;
- `Commented` — a text, and the text with such comments;
- `Commented.dropBlockComments`, `Commented.segments` — both passes;
- `trailing_comments_ignored` — the canonical text and its hash are the same.
-/

namespace CodeCensus

/-! ## Texts with comments at the ends of lines -/

/-- A blank, a mark, and any text that neither ends the line nor opens or closes a block comment. -/
structure IsTrailingComment (comment : List Char) : Prop where
  marked : ∃ text, comment = ' ' :: '#' :: text ∨ comment = ' ' :: '/' :: '/' :: text
  one_line : '\n' ∉ comment
  opens_none : ¬['/', '*'] <:+: comment
  closes_none : ¬['*', '/'] <:+: comment

theorem IsTrailingComment.head?_eq {comment : List Char} (h : IsTrailingComment comment) :
    comment.head? = some ' ' := by
  obtain ⟨text, rfl | rfl⟩ := h.marked
  · rfl
  · rfl

/-- The second text is the first one with comments at the ends of some lines. -/
inductive Commented : List Char → List Char → Prop
  | nil : Commented [] []
  | cons {s t : List Char} (c : Char) : Commented s t → Commented (c :: s) (c :: t)
  | atEnd {comment : List Char} : IsTrailingComment comment → Commented [] comment
  | atLineEnd {comment s t : List Char} : IsTrailingComment comment → Commented s t →
      Commented ('\n' :: s) (comment ++ '\n' :: t)

/-- A line is the same, or has a comment at its end. -/
def CommentedLine (line line' : List Char) : Prop :=
  line' = line ∨ ∃ comment, IsTrailingComment comment ∧ line' = line ++ comment

/-- Lines with comments at their ends make up such a text. -/
theorem Commented.of_lines {lines lines' : List (List Char)} (h : List.Forall₂ CommentedLine lines lines') :
    Commented (Text.joinLines lines) (Text.joinLines lines') := by
  have hfront : ∀ (line : List Char) {s t : List Char}, Commented s t → Commented (line ++ s) (line ++ t) := by
    intro line s t hst
    induction line with
    | nil => exact hst
    | cons c line ih => exact .cons c ih
  induction h with
  | nil => exact .nil
  | @cons line line' later later' hline hlater ih =>
      cases hlater with
      | nil =>
          rw [Text.joinLines_singleton, Text.joinLines_singleton]
          rcases hline with rfl | ⟨comment, hcomment, rfl⟩
          · simpa using hfront line' .nil
          · simpa using hfront line (.atEnd hcomment)
      | cons hnext hlater =>
          rw [Text.joinLines_cons_cons, Text.joinLines_cons_cons]
          rcases hline with rfl | ⟨comment, hcomment, rfl⟩
          · exact hfront line' (.cons '\n' ih)
          · rw [List.append_assoc]
            exact hfront line (.atLineEnd hcomment ih)

/-! ## Block comments -/

section BlockComments

variable {s t : List Char}

/-- Where the first text goes on with a character of a mark, so does the second one. -/
theorem Commented.head?_iff (h : Commented s t) {c : Char} (hline : c ≠ '\n') (hblank : c ≠ ' ') :
    t.head? = some c ↔ s.head? = some c := by
  cases h with
  | nil => rfl
  | cons d h => rfl
  | atEnd hcomment => simp [hcomment.head?_eq, Ne.symm hblank]
  | atLineEnd hcomment h => simp [hcomment.head?_eq, Ne.symm hblank, Ne.symm hline]

theorem Commented.of_cons {c : Char} (h : Commented (c :: s) t) (hline : c ≠ '\n') :
    ∃ t', t = c :: t' ∧ Commented s t' := by
  cases h with
  | cons c h => exact ⟨_, rfl, h⟩
  | atLineEnd hcomment h => exact absurd rfl hline

/-- **The ends of block comments correspond.** -/
theorem Commented.afterCommentEnd? (h : Commented s t) :
    Option.Rel Commented (afterCommentEnd? s) (afterCommentEnd? t) := by
  induction h with
  | nil => exact .none
  | @cons s t c h ih =>
      by_cases hend : c = '*' ∧ s.head? = some '/'
      · obtain ⟨rfl, hslash⟩ := hend
        obtain ⟨s', rfl⟩ := List.head?_eq_some_iff.mp hslash
        obtain ⟨t', rfl, h'⟩ := h.of_cons (by decide)
        exact .some h'
      · have hend' : ¬(c = '*' ∧ t.head? = some '/') := by
          rwa [h.head?_iff (by decide) (by decide)]
        rw [afterCommentEnd?_cons hend, afterCommentEnd?_cons hend']
        exact ih
  | atEnd hcomment =>
      have hend : ([] : List Char).head? ≠ some '/' := by simp
      have hnone := afterCommentEnd?_append hcomment.closes_none hend
      rw [List.append_nil] at hnone
      rw [hnone]
      exact .none
  | @atLineEnd comment s t hcomment h ih =>
      rw [afterCommentEnd?_append hcomment.closes_none (by simp), afterCommentEnd?_cons (by simp),
        afterCommentEnd?_cons (by simp)]
      exact ih

theorem Commented.afterComment? (h : Commented s t) (c : Char) :
    Option.Rel Commented (afterComment? (c :: s)) (afterComment? (c :: t)) := by
  by_cases hopen : c = '/' ∧ s.head? = some '*'
  · obtain ⟨rfl, hstar⟩ := hopen
    obtain ⟨s', rfl⟩ := List.head?_eq_some_iff.mp hstar
    obtain ⟨t', rfl, h'⟩ := h.of_cons (by decide)
    exact h'.afterCommentEnd?
  · have hopen' : ¬(c = '/' ∧ t.head? = some '*') := by
      rwa [h.head?_iff (by decide) (by decide)]
    rw [afterComment?_eq_none hopen, afterComment?_eq_none hopen']
    exact .none

/-- **The first pass.** By induction on the length of the text, since the pass goes on after a comment. -/
theorem Commented.dropBlockComments (h : Commented s t) :
    Commented (dropBlockComments s) (dropBlockComments t) := by
  induction hlength : s.length using Nat.strongRecOn generalizing s t with
  | ind n ih =>
      subst hlength
      cases h with
      | nil =>
          rw [dropBlockComments_nil]
          exact .nil
      | @cons s t c h =>
          have hrel := h.afterComment? c
          match hs : CodeCensus.afterComment? (c :: s), ht : CodeCensus.afterComment? (c :: t), hrel with
          | none, none, .none =>
              rw [dropBlockComments_cons hs, dropBlockComments_cons ht]
              exact .cons c (ih s.length (Nat.lt_succ_self _) h rfl)
          | some s', some t', .some h' =>
              rw [dropBlockComments_of_comment hs, dropBlockComments_of_comment ht]
              exact ih s'.length (afterComment?_length_lt hs) h' rfl
      | atEnd hcomment =>
          have hend : ([] : List Char).head? ≠ some '*' := by simp
          have hkept := dropBlockComments_append hcomment.opens_none hend
          rw [List.append_nil, dropBlockComments_nil, List.append_nil] at hkept
          rw [dropBlockComments_nil, hkept]
          exact .atEnd hcomment
      | @atLineEnd comment s t hcomment h =>
          rw [dropBlockComments_append hcomment.opens_none (by simp),
            dropBlockComments_cons (afterComment?_eq_none (by simp)),
            dropBlockComments_cons (afterComment?_eq_none (by simp))]
          exact .atLineEnd hcomment (ih s.length (Nat.lt_succ_self _) h rfl)

end BlockComments

/-! ## Line comments -/

/-- The lines of the two texts correspond. -/
theorem Commented.segments {s t : List Char} (h : Commented s t) :
    List.Forall₂ CommentedLine (Text.segments s) (Text.segments t) := by
  induction h with
  | nil => exact .cons (.inl rfl) .nil
  | @cons s t c h ih =>
      by_cases hc : c = '\n'
      · rw [hc, Text.segments_newline, Text.segments_newline]
        exact .cons (.inl rfl) ih
      · obtain ⟨first, later, hs⟩ := Text.exists_segments s
        obtain ⟨first', later', ht⟩ := Text.exists_segments t
        rw [hs, ht] at ih
        rw [Text.segments_cons hc hs, Text.segments_cons hc ht]
        cases ih with
        | cons hfirst hlater =>
            refine .cons ?_ hlater
            rcases hfirst with rfl | ⟨comment, hcomment, rfl⟩
            · exact .inl rfl
            · exact .inr ⟨comment, hcomment, rfl⟩
  | @atEnd comment hcomment =>
      rw [Text.segments_nil, Text.segments_of_not_mem hcomment.one_line]
      exact .cons (.inr ⟨comment, hcomment, rfl⟩) .nil
  | @atLineEnd comment s t hcomment h ih =>
      rw [Text.segments_newline, Text.segments_append_newline hcomment.one_line]
      exact .cons (.inr ⟨comment, hcomment, rfl⟩) ih

/-- A trailing comment is cut off, all but the blank in front of it. -/
theorem IsTrailingComment.cutLine_eq {comment : List Char} (h : IsTrailingComment comment) :
    cutLine comment = [' '] := by
  have hblank : ∀ rest, cutLine (' ' :: rest) = ' ' :: cutLine rest := fun rest =>
    cutLine_cons (by simp) (by decide)
  obtain ⟨text, rfl | rfl⟩ := h.marked
  · rw [hblank, cutLine_hash]
  · rw [hblank, cutLine_slashes]

/-- **The second pass.** A line that is cut at an earlier mark is the same, and any other one has a blank more. -/
theorem cutLine_append {comment : List Char} (h : IsTrailingComment comment) (line : List Char) :
    cutLine (line ++ comment) = cutLine line ∨ cutLine (line ++ comment) = cutLine line ++ [' '] := by
  induction line with
  | nil => exact .inr h.cutLine_eq
  | cons c line ih =>
      have hhead : (line ++ comment).head? = some '/' ↔ line.head? = some '/' := by
        cases line with
        | nil => simp [h.head?_eq]
        | cons d line => rfl
      by_cases hslashes : c = '/' ∧ line.head? = some '/'
      · obtain ⟨rfl, hslash⟩ := hslashes
        obtain ⟨line', rfl⟩ := List.head?_eq_some_iff.mp hslash
        exact .inl rfl
      · by_cases hhash : c = '#'
        · left
          rw [hhash, List.cons_append, cutLine_hash, cutLine_hash]
        · rw [List.cons_append, cutLine_cons hslashes hhash, cutLine_cons (by rwa [hhead]) hhash]
          rcases ih with ih | ih
          · exact .inl (by rw [ih])
          · exact .inr (by rw [ih, List.cons_append])

theorem CommentedLine.fields_cutLine {line line' : List Char} (h : CommentedLine line line') :
    Text.fields Text.isBlank (cutLine line') = Text.fields Text.isBlank (cutLine line) := by
  rcases h with rfl | ⟨comment, hcomment, rfl⟩
  · rfl
  · rcases cutLine_append hcomment line with hcut | hcut
    · rw [hcut]
    · have hblank : Text.isBlank ' ' = true := by decide
      rw [hcut, Text.fields_append hblank, Text.fields_nil, List.append_nil]

/-! ## Canonical text -/

/-- Without comments the two texts have the same words. -/
theorem Commented.fields_eq {s t : List Char} (h : Commented s t) :
    Text.fields Text.isBlank (dropLineComments t) = Text.fields Text.isBlank (dropLineComments s) := by
  have hlines := h.segments
  rw [dropLineComments_eq, dropLineComments_eq, Text.fields_joinLines Text.isBlank_newline,
    Text.fields_joinLines Text.isBlank_newline]
  generalize Text.segments s = lines at hlines ⊢
  generalize Text.segments t = lines' at hlines ⊢
  induction hlines with
  | nil => rfl
  | cons hline _ ih =>
      rw [List.map_cons, List.map_cons, List.flatMap_cons, List.flatMap_cons, hline.fields_cutLine, ih]

theorem Commented.canonicalChars_eq {s t : List Char} (h : Commented s t) :
    canonicalChars t = canonicalChars s := by
  unfold canonicalChars
  dsimp only
  rw [h.dropBlockComments.fields_eq]

/-- The text with something put at the end of each line, by the position of the line. -/
def appendToLines (added : Nat → List Char) (cs : List Char) : List Char :=
  Text.joinLines ((Text.segments cs).mapIdx fun position line => line ++ added position)

theorem forall₂_mapIdx {added : Nat → List Char}
    (hadded : ∀ position, added position = [] ∨ IsTrailingComment (added position))
    (lines : List (List Char)) :
    List.Forall₂ CommentedLine lines (lines.mapIdx fun position line => line ++ added position) := by
  induction lines generalizing added with
  | nil => exact .nil
  | cons line lines ih =>
      rw [List.mapIdx_cons]
      refine .cons ?_ (ih fun position => hadded (position + 1))
      rcases hadded 0 with hnone | hcomment
      · exact .inl (by rw [hnone, List.append_nil])
      · exact .inr ⟨_, hcomment, rfl⟩

/-- **Trailing comments are ignored.** Whatever comments are put at the ends of whatever lines of a file, its
    canonical text stays the same, and so does the hash of it. -/
theorem trailing_comments_ignored (content : String) (added : Nat → List Char)
    (hadded : ∀ position, added position = [] ∨ IsTrailingComment (added position)) :
    canonicalText (String.ofList (appendToLines added content.toList)) = canonicalText content ∧
      contentHash (String.ofList (appendToLines added content.toList)) = contentHash content := by
  have hcommented : Commented content.toList (appendToLines added content.toList) := by
    have hlines := Commented.of_lines (forall₂_mapIdx hadded (Text.segments content.toList))
    rwa [Text.joinLines_segments] at hlines
  have htext : canonicalText (String.ofList (appendToLines added content.toList)) = canonicalText content := by
    unfold canonicalText
    rw [String.toList_ofList, hcommented.canonicalChars_eq]
  refine ⟨htext, ?_⟩
  unfold contentHash
  rw [htext]

/-- One comment inside a block comment, and one at the end of the file behind a slash. -/
theorem trailing_comments_ignored_two_lines :
    let added : Nat → List Char
      | 0 => [' ', '/', '/', '#']
      | 2 => [' ', '#', '/']
      | _ => []
    (∀ position, added position = [] ∨ IsTrailingComment (added position)) ∧
      String.ofList (appendToLines added "a /* b\nc */ d # e\n/".toList) = "a /* b //#\nc */ d # e\n/ #/" ∧
      canonicalText "a /* b //#\nc */ d # e\n/ #/" = canonicalText "a /* b\nc */ d # e\n/" := by
  intro added
  have hadded : ∀ position, added position = [] ∨ IsTrailingComment (added position) := by
    intro position
    match position with
    | 0 => exact .inr ⟨⟨['#'], .inr rfl⟩, by decide, by decide, by decide⟩
    | 1 => exact .inl rfl
    | 2 => exact .inr ⟨⟨['/'], .inl rfl⟩, by decide, by decide, by decide⟩
    | _ + 3 => exact .inl rfl
  have hchanged : String.ofList (appendToLines added "a /* b\nc */ d # e\n/".toList) =
      "a /* b //#\nc */ d # e\n/ #/" := by decide
  have hsame := (trailing_comments_ignored "a /* b\nc */ d # e\n/" added hadded).1
  rw [hchanged] at hsame
  exact ⟨hadded, hchanged, hsame⟩

end CodeCensus
