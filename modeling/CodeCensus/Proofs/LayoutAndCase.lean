import CodeCensus.Proofs.CanonicalText

/-!
# Layout and letter case

Blanks and letters can be changed without a change of the canonical text: a run of blanks may become any other
one, as long as it goes over the end of a line if and only if it did before, and an ASCII letter may change its
case. The line ends have to stay because line comments stop there. Neither kind of change makes or breaks a mark
of a comment, so both passes of the removal go the same way on the two texts. A run that ends a line comment is
cut in two, and only the part in front of its first line feed is taken out; what is left of it still keeps words
apart. So it is enough to follow the first line and the words of the later ones.

## Contents
- `Relaid` — a text, and the text with other blanks and other letter case;
- `Relaid.dropBlockComments` — the first pass;
- `RelaidLine`, `Relaid.lineWords` — the second pass, and the words it leaves;
- `layout_and_case_ignored` — the canonical text and its hash are the same.
-/

namespace CodeCensus

/-! ## Other blanks and other letter case -/

/-- Blanks, at least one. -/
structure IsBlankRun (run : List Char) : Prop where
  nonempty : run ≠ []
  blank : ∀ c ∈ run, Text.isBlank c = true

/-- The second text is the first one with other runs of blanks in the places of its runs, and with ASCII letters in
    either case. A run may be replaced in parts, which comes to the same. -/
inductive Relaid : List Char → List Char → Prop
  | nil : Relaid [] []
  | letter {c d : Char} {s t : List Char} : Text.isBlank c = false → Text.SameLetter c d → Relaid s t →
      Relaid (c :: s) (d :: t)
  | blanks (run run' : List Char) {s t : List Char} : IsBlankRun run → IsBlankRun run' →
      ('\n' ∈ run ↔ '\n' ∈ run') → Relaid s t → Relaid (run ++ s) (run' ++ t)

/-- The characters that comments are marked with. -/
def isCommentMark (c : Char) : Bool := c == '/' || c == '*' || c == '#'

theorem isBlank_eq_false_of_isAlpha {c : Char} (h : c.isAlpha = true) : Text.isBlank c = false := by
  have hcode := Text.isAlpha_iff_toNat.mp h
  simp only [Text.isBlank, Bool.or_eq_false_iff, Bool.and_eq_false_iff, decide_eq_false_iff_not,
    beq_eq_false_iff_ne]
  omega

theorem isBlank_eq_false_of_sameLetter {c d : Char} (h : Text.SameLetter c d) (hc : Text.isBlank c = false) :
    Text.isBlank d = false := by
  rcases h.eq_or_isAlpha with rfl | ⟨_, hd⟩
  · exact hc
  · exact isBlank_eq_false_of_isAlpha hd

theorem isCommentMark_cases {c : Char} (h : isCommentMark c = true) :
    Text.isBlank c = false ∧ c.isAlpha = false := by
  simp only [isCommentMark, Bool.or_eq_true, beq_iff_eq] at h
  rcases h with (rfl | rfl) | rfl
  · decide
  · decide
  · decide

/-- A change of case makes no mark of a comment. -/
theorem eq_mark_iff {c d x : Char} (h : Text.SameLetter c d) (hx : isCommentMark x = true) : d = x ↔ c = x := by
  obtain ⟨_, halpha⟩ := isCommentMark_cases hx
  rcases h.eq_or_isAlpha with rfl | ⟨hc, hd⟩
  · rfl
  · constructor
    · rintro rfl
      rw [hd] at halpha
      cases halpha
    · rintro rfl
      rw [hc] at halpha
      cases halpha

theorem ne_mark_of_isBlank {c x : Char} (h : Text.isBlank c = true) (hx : isCommentMark x = true) : c ≠ x := by
  rintro rfl
  rw [(isCommentMark_cases hx).1] at h
  cases h

theorem head?_ne_of_blank {run : List Char} (h : ∀ c ∈ run, Text.isBlank c = true) {x : Char}
    (hx : isCommentMark x = true) : run.head? ≠ some x := fun hhead =>
  ne_mark_of_isBlank (h x (List.mem_of_mem_head? hhead)) hx rfl

theorem IsBlankRun.head?_ne {run : List Char} (h : IsBlankRun run) (rest : List Char) {x : Char}
    (hx : isCommentMark x = true) : (run ++ rest).head? ≠ some x := by
  rw [List.head?_append_of_ne_nil _ h.nonempty]
  exact head?_ne_of_blank h.blank hx

/-! ## Blanks are passed -/

section Passed

variable {run : List Char} (h : ∀ c ∈ run, Text.isBlank c = true) (rest : List Char)
include h

theorem afterCommentEnd?_blanks : afterCommentEnd? (run ++ rest) = afterCommentEnd? rest := by
  induction run with
  | nil => rfl
  | cons c run ih =>
      obtain ⟨hc, hrun⟩ := List.forall_mem_cons.mp h
      rw [List.cons_append, afterCommentEnd?_cons (fun hend => ne_mark_of_isBlank hc rfl hend.1), ih hrun]

theorem dropBlockComments_blanks : dropBlockComments (run ++ rest) = run ++ dropBlockComments rest := by
  induction run with
  | nil => rfl
  | cons c run ih =>
      obtain ⟨hc, hrun⟩ := List.forall_mem_cons.mp h
      have hnone : afterComment? (c :: (run ++ rest)) = none :=
        afterComment?_eq_none fun hopen => ne_mark_of_isBlank hc rfl hopen.1
      rw [List.cons_append, dropBlockComments_cons hnone, ih hrun, List.cons_append]

theorem cutLine_blanks : cutLine (run ++ rest) = run ++ cutLine rest := by
  induction run with
  | nil => rfl
  | cons c run ih =>
      obtain ⟨hc, hrun⟩ := List.forall_mem_cons.mp h
      rw [List.cons_append, cutLine_cons (fun hslashes => ne_mark_of_isBlank hc rfl hslashes.1)
        (ne_mark_of_isBlank hc rfl), ih hrun, List.cons_append]

end Passed

/-! ## Block comments -/

section BlockComments

variable {s t : List Char}

/-- Where the one text goes on with a mark, so does the other. -/
theorem Relaid.head?_iff (h : Relaid s t) {x : Char} (hx : isCommentMark x = true) :
    t.head? = some x ↔ s.head? = some x := by
  cases h with
  | nil => rfl
  | letter hc hcd h => simp [eq_mark_iff hcd hx]
  | blanks run run' hrun hrun' _ h => simp only [hrun.head?_ne _ hx, hrun'.head?_ne _ hx]

/-- After a mark that both texts go on with, they correspond again. -/
theorem Relaid.of_mark (h : Relaid s t) {x : Char} (hx : isCommentMark x = true) (hs : s.head? = some x) :
    ∃ s' t', s = x :: s' ∧ t = x :: t' ∧ Relaid s' t' := by
  cases h with
  | nil => cases hs
  | @letter c d s t hc hcd h =>
      obtain rfl : c = x := by simpa using hs
      obtain rfl := (eq_mark_iff hcd hx).mpr rfl
      exact ⟨s, t, rfl, rfl, h⟩
  | blanks run run' hrun _ _ h => exact absurd hs (hrun.head?_ne _ hx)

/-- **The ends of block comments correspond.** -/
theorem Relaid.afterCommentEnd? (h : Relaid s t) :
    Option.Rel Relaid (afterCommentEnd? s) (afterCommentEnd? t) := by
  induction h with
  | nil => exact .none
  | @letter c d s t hc hcd h ih =>
      by_cases hend : c = '*' ∧ s.head? = some '/'
      · obtain ⟨rfl, hslash⟩ := hend
        obtain rfl := (eq_mark_iff hcd rfl).mpr rfl
        obtain ⟨s', t', rfl, rfl, h'⟩ := h.of_mark rfl hslash
        exact .some h'
      · have hend' : ¬(d = '*' ∧ t.head? = some '/') := by
          rwa [eq_mark_iff hcd rfl, h.head?_iff rfl]
        rw [afterCommentEnd?_cons hend, afterCommentEnd?_cons hend']
        exact ih
  | @blanks run run' s t hrun hrun' _ h ih =>
      rw [afterCommentEnd?_blanks hrun.blank, afterCommentEnd?_blanks hrun'.blank]
      exact ih

theorem Relaid.afterComment? (h : Relaid s t) {c d : Char} (hcd : Text.SameLetter c d) :
    Option.Rel Relaid (afterComment? (c :: s)) (afterComment? (d :: t)) := by
  by_cases hopen : c = '/' ∧ s.head? = some '*'
  · obtain ⟨rfl, hstar⟩ := hopen
    obtain rfl := (eq_mark_iff hcd rfl).mpr rfl
    obtain ⟨s', t', rfl, rfl, h'⟩ := h.of_mark rfl hstar
    exact h'.afterCommentEnd?
  · have hopen' : ¬(d = '/' ∧ t.head? = some '*') := by
      rwa [eq_mark_iff hcd rfl, h.head?_iff rfl]
    rw [afterComment?_eq_none hopen, afterComment?_eq_none hopen']
    exact .none

/-- **The first pass.** By induction on the length of the text, since the pass goes on after a comment. -/
theorem Relaid.dropBlockComments (h : Relaid s t) : Relaid (dropBlockComments s) (dropBlockComments t) := by
  induction hlength : s.length using Nat.strongRecOn generalizing s t with
  | ind n ih =>
      subst hlength
      cases h with
      | nil =>
          rw [dropBlockComments_nil]
          exact .nil
      | @letter c d s t hc hcd h =>
          have hrel := h.afterComment? hcd
          match hs : CodeCensus.afterComment? (c :: s), ht : CodeCensus.afterComment? (d :: t), hrel with
          | none, none, .none =>
              rw [dropBlockComments_cons hs, dropBlockComments_cons ht]
              exact .letter hc hcd (ih s.length (Nat.lt_succ_self _) h rfl)
          | some s', some t', .some h' =>
              rw [dropBlockComments_of_comment hs, dropBlockComments_of_comment ht]
              exact ih s'.length (afterComment?_length_lt hs) h' rfl
      | @blanks run run' s t hrun hrun' hnewline h =>
          have hshorter : s.length < (run ++ s).length := by
            have := List.length_pos_iff.mpr hrun.nonempty
            rw [List.length_append]
            omega
          rw [dropBlockComments_blanks hrun.blank, dropBlockComments_blanks hrun'.blank]
          exact .blanks run run' hrun hrun' hnewline (ih s.length hshorter h rfl)

end BlockComments

/-! ## One line -/

/-- Lines that correspond. What blanks there are at the end does not matter, and neither does whether there are
    any. -/
inductive RelaidLine : List Char → List Char → Prop
  | atEnd {run run' : List Char} : (∀ c ∈ run, Text.isBlank c = true) → (∀ c ∈ run', Text.isBlank c = true) →
      RelaidLine run run'
  | letter {c d : Char} {s t : List Char} : Text.isBlank c = false → Text.SameLetter c d → RelaidLine s t →
      RelaidLine (c :: s) (d :: t)
  | blanks {run run' s t : List Char} : IsBlankRun run → IsBlankRun run' → RelaidLine s t →
      RelaidLine (run ++ s) (run' ++ t)

theorem RelaidLine.nil : RelaidLine [] [] := .atEnd (by simp) (by simp)

section Lines

variable {s t : List Char}

theorem RelaidLine.head?_iff (h : RelaidLine s t) {x : Char} (hx : isCommentMark x = true) :
    t.head? = some x ↔ s.head? = some x := by
  cases h with
  | atEnd hrun hrun' => simp only [head?_ne_of_blank hrun hx, head?_ne_of_blank hrun' hx]
  | letter hc hcd h => simp [eq_mark_iff hcd hx]
  | blanks hrun hrun' h => simp only [hrun.head?_ne _ hx, hrun'.head?_ne _ hx]

/-- **The second pass, on one line.** Both lines are cut at the same mark. -/
theorem RelaidLine.cutLine (h : RelaidLine s t) : RelaidLine (cutLine s) (cutLine t) := by
  induction h with
  | @atEnd run run' hrun hrun' =>
      have hkept : ∀ {run : List Char}, (∀ c ∈ run, Text.isBlank c = true) → CodeCensus.cutLine run = run := by
        intro run hrun
        have hcut := cutLine_blanks hrun []
        rwa [List.append_nil, show CodeCensus.cutLine [] = [] from rfl, List.append_nil] at hcut
      rw [hkept hrun, hkept hrun']
      exact .atEnd hrun hrun'
  | @letter c d s t hc hcd h ih =>
      by_cases hhash : c = '#'
      · obtain rfl := hhash
        obtain rfl := (eq_mark_iff hcd rfl).mpr rfl
        rw [cutLine_hash, cutLine_hash]
        exact .nil
      · have hhash' : d ≠ '#' := mt (eq_mark_iff hcd rfl).mp hhash
        by_cases hslashes : c = '/' ∧ s.head? = some '/'
        · have hslashes' : d = '/' ∧ t.head? = some '/' := by
            rwa [eq_mark_iff hcd rfl, h.head?_iff rfl]
          obtain ⟨rfl, hslash⟩ := hslashes
          obtain ⟨rfl, hslash'⟩ := hslashes'
          obtain ⟨s', rfl⟩ := List.head?_eq_some_iff.mp hslash
          obtain ⟨t', rfl⟩ := List.head?_eq_some_iff.mp hslash'
          rw [cutLine_slashes, cutLine_slashes]
          exact .nil
        · have hslashes' : ¬(d = '/' ∧ t.head? = some '/') := by
            rwa [eq_mark_iff hcd rfl, h.head?_iff rfl]
          rw [cutLine_cons hslashes hhash, cutLine_cons hslashes' hhash']
          exact .letter hc hcd ih
  | blanks hrun hrun' h ih =>
      rw [cutLine_blanks hrun.blank, cutLine_blanks hrun'.blank]
      exact .blanks hrun hrun' ih

/-- The same words, up to the case of their letters. -/
def SameWords (words words' : List (List Char)) : Prop :=
  List.Forall₂ (List.Forall₂ Text.SameLetter) words words'

theorem SameWords.closeRun {run run' : List Char} {later later' : List (List Char)}
    (hrun : List.Forall₂ Text.SameLetter run run') (hlater : SameWords later later') :
    SameWords (Text.closeRun run later) (Text.closeRun run' later') := by
  unfold Text.closeRun
  cases hrun with
  | nil => exact hlater
  | cons hcd hrun => exact .cons (.cons hcd hrun) hlater

/-- Blanks end the run that is being put together. -/
theorem foldr_fieldStep_blanks {run : List Char} (h : IsBlankRun run) (state : List Char × List (List Char)) :
    run.foldr (Text.fieldStep Text.isBlank) state = ([], Text.closeRun state.1 state.2) := by
  obtain ⟨hne, hblank⟩ := h
  induction run with
  | nil => exact absurd rfl hne
  | cons c run ih =>
      obtain ⟨hc, hrun⟩ := List.forall_mem_cons.mp hblank
      rw [List.foldr_cons, Text.fieldStep, if_pos hc]
      cases run with
      | nil => rfl
      | cons c' run =>
          -- the later blanks have ended the run already, and there is nothing left to end
          rw [ih (List.cons_ne_nil c' run) hrun]
          rfl

/-- While corresponding lines are divided, the runs that are being put together have the same letters, and the later
    words are the same. -/
theorem RelaidLine.foldr_fieldStep (h : RelaidLine s t) :
    List.Forall₂ Text.SameLetter (s.foldr (Text.fieldStep Text.isBlank) ([], [])).1
        (t.foldr (Text.fieldStep Text.isBlank) ([], [])).1 ∧
      SameWords (s.foldr (Text.fieldStep Text.isBlank) ([], [])).2
        (t.foldr (Text.fieldStep Text.isBlank) ([], [])).2 := by
  induction h with
  | atEnd hrun hrun' =>
      have hnone : ∀ {run : List Char}, (∀ c ∈ run, Text.isBlank c = true) →
          run.foldr (Text.fieldStep Text.isBlank) ([], []) = ([], []) := by
        intro run hrun
        cases run with
        | nil => rfl
        | cons c run => exact foldr_fieldStep_blanks ⟨List.cons_ne_nil c run, hrun⟩ ([], [])
      rw [hnone hrun, hnone hrun']
      exact ⟨.nil, .nil⟩
  | @letter c d s t hc hcd _ ih =>
      have hd := isBlank_eq_false_of_sameLetter hcd hc
      rw [List.foldr_cons, List.foldr_cons, Text.fieldStep, Text.fieldStep, if_neg (Bool.eq_false_iff.mp hc),
        if_neg (Bool.eq_false_iff.mp hd)]
      exact ⟨.cons hcd ih.1, ih.2⟩
  | blanks hrun hrun' _ ih =>
      rw [List.foldr_append, List.foldr_append, foldr_fieldStep_blanks hrun, foldr_fieldStep_blanks hrun']
      exact ⟨.nil, .closeRun ih.1 ih.2⟩

/-- Lines that correspond have the same words. -/
theorem RelaidLine.fields (h : RelaidLine s t) :
    SameWords (Text.fields Text.isBlank s) (Text.fields Text.isBlank t) :=
  .closeRun h.foldr_fieldStep.1 h.foldr_fieldStep.2

end Lines

/-! ## All lines -/

/-- Blanks in front of a text add no words, be it that they end lines. -/
theorem lineWords_blanks {run : List Char} (h : ∀ c ∈ run, Text.isBlank c = true) (cs : List Char) :
    lineWords (Text.segments (run ++ cs)) = lineWords (Text.segments cs) := by
  induction run with
  | nil => rfl
  | cons c run ih =>
      obtain ⟨hc, hrun⟩ := List.forall_mem_cons.mp h
      by_cases hnewline : c = '\n'
      · rw [hnewline, List.cons_append, Text.segments_newline, ← ih hrun]
        rfl
      · obtain ⟨first, later, hsegments⟩ := Text.exists_segments (run ++ cs)
        have hcut : cutLine ([c] ++ first) = [c] ++ cutLine first := cutLine_blanks (by simpa using hc) first
        rw [← ih hrun, List.cons_append, Text.segments_cons hnewline hsegments, hsegments, lineWords, lineWords,
          List.flatMap_cons, List.flatMap_cons, ← List.singleton_append, hcut, List.singleton_append,
          Text.fields_separator hc]

/-- Blanks that end a line: the ones in front of the first line feed belong to that line, and the others add no
    words. -/
theorem exists_segments_blanks {run : List Char} (h : ∀ c ∈ run, Text.isBlank c = true) (hnewline : '\n' ∈ run)
    (cs : List Char) : ∃ front later, (∀ c ∈ front, Text.isBlank c = true) ∧
      Text.segments (run ++ cs) = front :: later ∧ lineWords later = lineWords (Text.segments cs) := by
  obtain ⟨front, back, rfl, hfront⟩ := List.eq_append_cons_of_mem hnewline
  obtain ⟨hblank, hrest⟩ := List.forall_mem_append.mp h
  obtain ⟨_, hback⟩ := List.forall_mem_cons.mp hrest
  refine ⟨front, Text.segments (back ++ cs), hblank, ?_, lineWords_blanks hback cs⟩
  rw [List.append_assoc, List.cons_append, Text.segments_append_newline hfront]

section AllLines

variable {s t : List Char}

/-- The first lines correspond, and the later ones have the same words. -/
theorem Relaid.segments (h : Relaid s t) :
    ∃ first later first' later', Text.segments s = first :: later ∧ Text.segments t = first' :: later' ∧
      RelaidLine first first' ∧ SameWords (lineWords later) (lineWords later') := by
  induction h with
  | nil => exact ⟨[], [], [], [], rfl, rfl, .nil, .nil⟩
  | @letter c d s t hc hcd h ih =>
      obtain ⟨first, later, first', later', hs, ht, hfirst, hlater⟩ := ih
      have hne : ∀ {x : Char}, Text.isBlank x = false → x ≠ '\n' := by
        rintro x hx rfl
        rw [Text.isBlank_newline] at hx
        cases hx
      exact ⟨_, _, _, _, Text.segments_cons (hne hc) hs,
        Text.segments_cons (hne (isBlank_eq_false_of_sameLetter hcd hc)) ht, .letter hc hcd hfirst, hlater⟩
  | @blanks run run' s t hrun hrun' hnewline h ih =>
      obtain ⟨first, later, first', later', hs, ht, hfirst, hlater⟩ := ih
      by_cases hmem : '\n' ∈ run
      · -- both runs end their first lines, and the lines that were first so far are now later ones
        obtain ⟨front, rest, hfront, hsegments, hwords⟩ := exists_segments_blanks hrun.blank hmem s
        obtain ⟨front', rest', hfront', hsegments', hwords'⟩ :=
          exists_segments_blanks hrun'.blank (hnewline.mp hmem) t
        refine ⟨front, rest, front', rest', hsegments, hsegments', .atEnd hfront hfront', ?_⟩
        rw [hwords, hwords', hs, ht]
        exact List.rel_append hfirst.cutLine.fields hlater
      · -- neither run ends a line, so both belong to the first lines
        have hmem' := mt hnewline.mpr hmem
        exact ⟨_, _, _, _, Text.segments_append hmem hs, Text.segments_append hmem' ht,
          .blanks hrun hrun' hfirst, hlater⟩

/-- **The second pass.** The same words are left. -/
theorem Relaid.lineWords (h : Relaid s t) : SameWords (lineWords (Text.segments s)) (lineWords (Text.segments t)) := by
  obtain ⟨first, later, first', later', hs, ht, hfirst, hlater⟩ := h.segments
  rw [hs, ht]
  exact List.rel_append hfirst.cutLine.fields hlater

end AllLines

/-! ## Canonical text -/

theorem SameWords.spaced {words words' : List (List Char)} (h : SameWords words words') :
    List.Forall₂ Text.SameLetter (spaced words) (spaced words') := by
  induction h with
  | nil => exact .nil
  | @cons word word' later later' hword hlater ih =>
      cases hlater with
      | nil => rwa [spaced_singleton, spaced_singleton]
      | cons hnext hlater =>
          rw [spaced_cons_cons, spaced_cons_cons]
          exact List.rel_append hword (.cons rfl ih)

theorem Relaid.canonicalChars_eq {s t : List Char} (h : Relaid s t) : canonicalChars t = canonicalChars s := by
  have hwords := h.dropBlockComments.lineWords
  rw [CodeCensus.canonicalChars_eq, CodeCensus.canonicalChars_eq, fields_dropLineComments, fields_dropLineComments,
    Text.lowerChars_congr hwords.spaced]

/-- **Layout and letter case are ignored.** Whatever blanks are put in the places of the blanks of a file, line ends
    in the places of line ends, and whatever case its ASCII letters are given, its canonical text stays the same,
    and so does the hash of it. -/
theorem layout_and_case_ignored (content content' : String) (h : Relaid content.toList content'.toList) :
    canonicalText content' = canonicalText content ∧ contentHash content' = contentHash content := by
  have htext : canonicalText content' = canonicalText content := by
    unfold canonicalText
    rw [h.canonicalChars_eq]
  refine ⟨htext, ?_⟩
  unfold contentHash
  rw [htext]

/-- Blanks inside a block comment, on both sides of one, and at the end of a line comment; and a letter in front of
    another one whose lower case depends on it. -/
theorem layout_and_case_ignored_around_comments :
    Relaid "AΣ /*\n*/ B //c \n d".toList "aΣ\t/* \n*/  b //C\n\nD".toList ∧
      canonicalText "aΣ\t/* \n*/  b //C\n\nD" = canonicalText "AΣ /*\n*/ B //c \n d" := by
  have hblanks : ∀ {run : List Char}, (!run.isEmpty && run.all Text.isBlank) = true → IsBlankRun run := by
    intro run h
    rw [Bool.and_eq_true, Bool.not_eq_true', List.isEmpty_eq_false_iff, List.all_eq_true] at h
    exact ⟨h.1, h.2⟩
  have hrelaid : Relaid "AΣ /*\n*/ B //c \n d".toList "aΣ\t/* \n*/  b //C\n\nD".toList :=
    .letter rfl rfl <| .letter rfl rfl <| .blanks [' '] ['\t'] (hblanks rfl) (hblanks rfl) (by decide) <|
    .letter rfl rfl <| .letter rfl rfl <| .blanks ['\n'] [' ', '\n'] (hblanks rfl) (hblanks rfl) (by decide) <|
    .letter rfl rfl <| .letter rfl rfl <| .blanks [' '] [' ', ' '] (hblanks rfl) (hblanks rfl) (by decide) <|
    .letter rfl rfl <| .blanks [' '] [' '] (hblanks rfl) (hblanks rfl) (by decide) <|
    .letter rfl rfl <| .letter rfl rfl <| .letter rfl rfl <|
    .blanks [' ', '\n', ' '] ['\n', '\n'] (hblanks rfl) (hblanks rfl) (by decide) <|
    .letter rfl rfl .nil
  exact ⟨hrelaid, (layout_and_case_ignored _ _ hrelaid).1⟩

end CodeCensus
