import CodeCensus.Text.Blank
import CodeCensus.Text.LowerCase
import Mathlib

/-!
# Text in lower case

Lower-casing goes through a text from its front and replaces each character by one or two others. Which ones
depends on the neighbourhood of the character, for one letter. Here it is described without its accumulator,
and by what can be read off the result: which of its characters were there before, and which texts have the
same one.

## Contents
- `isMark`, `eq_of_mem_lowerAt` — blanks, punctuation and capital letters are never put in by lower-casing;
- `mem_of_mem_lowerChars`, `head?_of_lowerChars`, `getLast?_of_lowerChars`, `pair_of_lowerChars` — marks in the
  result and the places they come from;
- `length_le_lowerChars` — no character is lost;
- `SameLetter`, `lowerChars_congr` — the case of ASCII letters does not matter.
-/

namespace CodeCensus
namespace Text

/-! ## Marks -/

/-- Blanks, and the ASCII characters that are no small letters. -/
def isMark (c : Char) : Bool := isBlank c || (decide (c.toNat < 0x80) && !c.isLower)

/-- Code points of characters that are no marks. Between these ranges lie blanks and surrogates. -/
def unmarkedRanges : List CodeRange :=
  ofPairs [(0x61, 0x7a), (0xa1, 0x167f), (0x1681, 0x1fff), (0x2060, 0x2fff), (0x3001, 0xd7ff),
    (0xe000, 0x10ffff)]

theorem isUpper_iff_toNat {c : Char} : c.isUpper = true ↔ 0x41 ≤ c.toNat ∧ c.toNat ≤ 0x5a := by
  simp [Char.isUpper, UInt32.le_iff_toNat_le]

theorem isLower_iff_toNat {c : Char} : c.isLower = true ↔ 0x61 ≤ c.toNat ∧ c.toNat ≤ 0x7a := by
  simp [Char.isLower, UInt32.le_iff_toNat_le]

theorem isAlpha_iff_toNat {c : Char} : c.isAlpha = true ↔
    0x41 ≤ c.toNat ∧ c.toNat ≤ 0x5a ∨ 0x61 ≤ c.toNat ∧ c.toNat ≤ 0x7a := by
  rw [Char.isAlpha, Bool.or_eq_true, isUpper_iff_toNat, isLower_iff_toNat]

theorem toNat_lt_of_isAlpha {c : Char} (h : c.isAlpha = true) : c.toNat < 0x80 := by
  have := isAlpha_iff_toNat.mp h
  omega

theorem isAlpha_of_isUpper {c : Char} (h : c.isUpper = true) : c.isAlpha = true := by
  rw [Char.isAlpha, h, Bool.true_or]

theorem isMark_of_isBlank {c : Char} (h : isBlank c = true) : isMark c = true := by
  rw [isMark, h, Bool.true_or]

theorem isMark_of_isUpper {c : Char} (h : c.isUpper = true) : isMark c = true := by
  have hlower : c.isLower = false := Bool.eq_false_iff.mpr (Char.not_isLower_of_isUpper h)
  simp [isMark, hlower, toNat_lt_of_isAlpha (isAlpha_of_isUpper h)]

theorem isMark_eq_false_of_mem {r : CodeRange} (hr : r ∈ unmarkedRanges) {c : Char} (hfirst : r.first ≤ c.toNat)
    (hlast : c.toNat ≤ r.last) : isMark c = false := by
  simp only [unmarkedRanges, ofPairs, List.map_cons, List.map_nil, List.mem_cons, List.not_mem_nil, or_false] at hr
  simp only [isMark, isBlank, Bool.or_eq_false_iff, Bool.and_eq_false_iff, decide_eq_false_iff_not,
    Bool.not_eq_false', beq_eq_false_iff_ne, isLower_iff_toNat]
  rcases hr with rfl | rfl | rfl | rfl | rfl | rfl
  all_goals
    simp only at hfirst hlast
    omega

set_option maxRecDepth 4000 in
/-- **The partners of a run are no marks.** Each run is shifted as a whole into one of the ranges. -/
theorem caseRuns_unmarked : ∀ run ∈ caseRuns, ∃ r ∈ unmarkedRanges,
    (r.first : Int) ≤ run.first + run.shift ∧ run.last + run.shift ≤ (r.last : Int) := by
  decide

theorem unmarkedRanges_valid : ∀ r ∈ unmarkedRanges, r.last < 0xd800 ∨ 0xdfff < r.first ∧ r.last < 0x110000 := by
  decide

/-- Outside ASCII, the partner of a character is the character itself or no mark. -/
theorem lowerPartner_unmarked {c : Char} (hc : ¬c.toNat < 0x80) :
    lowerPartner c = c ∨ isMark (lowerPartner c) = false := by
  rw [lowerPartner, if_neg hc]
  dsimp only
  split
  next run hrun =>
    right
    have hinside := List.find?_some hrun
    simp only [Bool.and_eq_true, decide_eq_true_eq] at hinside
    obtain ⟨r, hr, hfirst, hlast⟩ := caseRuns_unmarked run (List.mem_of_find?_eq_some hrun)
    have hvalid : ((c.toNat : Int) + run.shift).toNat.isValidChar := by
      have := unmarkedRanges_valid r hr
      unfold Nat.isValidChar
      omega
    apply isMark_eq_false_of_mem hr
    · rw [Char.toNat_ofNat, if_pos hvalid]
      omega
    · rw [Char.toNat_ofNat, if_pos hvalid]
      omega
  next => exact .inl rfl

/-- A small letter is no mark. -/
theorem isMark_eq_false_of_isLower {c : Char} (h : c.isLower = true) : isMark c = false := by
  obtain ⟨hfirst, hlast⟩ := isLower_iff_toNat.mp h
  exact isMark_eq_false_of_mem (List.mem_cons_self ..) hfirst hlast

/-- **Lower-casing puts no marks in.** A mark in the lower case of a character is the character itself, and that
    is no capital letter. -/
theorem eq_of_mem_lowerAt {casedBefore : Bool} {c d : Char} {rest : List Char} (h : d ∈ lowerAt casedBefore c rest)
    (hd : isMark d = true) : d = c ∧ c.isUpper = false := by
  unfold lowerAt at h
  split at h
  next =>
    -- neither form of the small sigma is a mark
    obtain rfl := List.mem_singleton.mp h
    split at hd
    next => exact absurd hd (by decide)
    next => exact absurd hd (by decide)
  next =>
    split at h
    next =>
      -- the dotted capital I becomes a small letter and a combining dot
      rcases List.mem_pair.mp h with rfl | rfl
      · exact absurd hd (by decide)
      · exact absurd hd (by decide)
    next =>
      obtain rfl := List.mem_singleton.mp h
      by_cases hascii : c.toNat < 0x80
      · have hpartner : lowerPartner c = c.toLower := by rw [lowerPartner, if_pos hascii]
        rw [hpartner] at hd ⊢
        by_cases hupper : c.isUpper = true
        · have hlower : c.toLower.isLower = true := by
            rw [Char.isLower_toLower_eq_isAlpha, isAlpha_of_isUpper hupper]
          rw [isMark_eq_false_of_isLower hlower] at hd
          cases hd
        · exact ⟨Char.toLower_eq_of_not_isUpper hupper, Bool.eq_false_iff.mpr hupper⟩
      · have hupper : c.isUpper = false :=
          Bool.eq_false_iff.mpr fun hupper => hascii (toNat_lt_of_isAlpha (isAlpha_of_isUpper hupper))
        rcases lowerPartner_unmarked hascii with heq | hunmarked
        · exact ⟨heq, hupper⟩
        · rw [hunmarked] at hd
          cases hd

theorem length_lowerAt_of_isMark {c : Char} (hc : isMark c = true) (casedBefore : Bool) (rest : List Char) :
    (lowerAt casedBefore c rest).length = 1 := by
  have hdotted : c ≠ 'İ' := by
    rintro rfl
    exact absurd hc (by decide)
  rw [lowerAt, if_neg hdotted]
  split
  next => rfl
  next => rfl

theorem lowerAt_ne_nil (casedBefore : Bool) (c : Char) (rest : List Char) : lowerAt casedBefore c rest ≠ [] := by
  unfold lowerAt
  split
  next => exact List.cons_ne_nil _ _
  next =>
    split
    next => exact List.cons_ne_nil _ _
    next => exact List.cons_ne_nil _ _

/-! ## The whole text -/

theorem lowerFrom_append (casedBefore : Bool) (done front cs : List Char) :
    lowerFrom casedBefore (done ++ front) cs = front.reverse ++ lowerFrom casedBefore done cs := by
  induction cs generalizing casedBefore done with
  | nil => rw [lowerFrom, lowerFrom, List.reverse_append]
  | cons c cs ih => rw [lowerFrom, ← List.append_assoc, ih, lowerFrom]

@[simp] theorem lowerFrom_nil (casedBefore : Bool) : lowerFrom casedBefore [] [] = [] := rfl

/-- The lower case of the first character comes first. -/
theorem lowerFrom_cons (casedBefore : Bool) (c : Char) (cs : List Char) :
    lowerFrom casedBefore [] (c :: cs) =
      lowerAt casedBefore c cs ++ lowerFrom (casedAfter casedBefore c) [] cs := by
  rw [lowerFrom, List.append_nil, ← List.nil_append (List.reverse _), lowerFrom_append, List.reverse_reverse]

theorem length_le_lowerFrom (casedBefore : Bool) (cs : List Char) :
    cs.length ≤ (lowerFrom casedBefore [] cs).length := by
  induction cs generalizing casedBefore with
  | nil => exact Nat.le_refl _
  | cons c cs ih =>
      have hpos := List.length_pos_iff.mpr (lowerAt_ne_nil casedBefore c cs)
      have hrest := ih (casedAfter casedBefore c)
      rw [lowerFrom_cons, List.length_append, List.length_cons]
      omega

/-- No character is lost. -/
theorem length_le_lowerChars (cs : List Char) : cs.length ≤ (lowerChars cs).length := length_le_lowerFrom false cs

section Marks

variable {d e : Char} {casedBefore : Bool} {cs : List Char}

theorem mem_of_mem_lowerFrom (hd : isMark d = true) (h : d ∈ lowerFrom casedBefore [] cs) :
    d ∈ cs ∧ d.isUpper = false := by
  induction cs generalizing casedBefore with
  | nil => cases h
  | cons c cs ih =>
      rw [lowerFrom_cons, List.mem_append] at h
      rcases h with hfirst | hlater
      · obtain ⟨rfl, hupper⟩ := eq_of_mem_lowerAt hfirst hd
        exact ⟨List.mem_cons_self, hupper⟩
      · obtain ⟨hmem, hupper⟩ := ih hlater
        exact ⟨List.mem_cons_of_mem c hmem, hupper⟩

/-- **Marks in lower-case text** were there before. -/
theorem mem_of_mem_lowerChars (hd : isMark d = true) (h : d ∈ lowerChars cs) : d ∈ cs :=
  (mem_of_mem_lowerFrom hd h).1

/-- There are no capital letters of ASCII in lower-case text. -/
theorem isUpper_eq_false_of_mem_lowerChars (h : d ∈ lowerChars cs) : d.isUpper = false := by
  apply Bool.eq_false_iff.mpr
  intro hupper
  have hnot := (mem_of_mem_lowerFrom (isMark_of_isUpper hupper) h).2
  rw [hupper] at hnot
  cases hnot

theorem head?_of_lowerFrom (hd : isMark d = true) (h : (lowerFrom casedBefore [] cs).head? = some d) :
    cs.head? = some d := by
  cases cs with
  | nil => cases h
  | cons c cs =>
      rw [lowerFrom_cons, List.head?_append_of_ne_nil _ (lowerAt_ne_nil casedBefore c cs)] at h
      obtain ⟨rfl, _⟩ := eq_of_mem_lowerAt (List.mem_of_mem_head? h) hd
      rfl

/-- A mark at the front was at the front. -/
theorem head?_of_lowerChars (hd : isMark d = true) (h : (lowerChars cs).head? = some d) : cs.head? = some d :=
  head?_of_lowerFrom hd h

theorem getLast?_of_lowerFrom (hd : isMark d = true) (h : (lowerFrom casedBefore [] cs).getLast? = some d) :
    cs.getLast? = some d := by
  induction cs generalizing casedBefore with
  | nil => cases h
  | cons c cs ih =>
      rw [lowerFrom_cons, List.getLast?_append] at h
      cases cs with
      | nil =>
          rw [lowerFrom_nil, List.getLast?_nil, Option.none_or] at h
          obtain ⟨rfl, _⟩ := eq_of_mem_lowerAt (List.mem_of_getLast? h) hd
          rfl
      | cons c' cs =>
          -- the last character comes from the later ones, which are not lost
          have hne : lowerFrom (casedAfter casedBefore c) [] (c' :: cs) ≠ [] := by
            rw [lowerFrom_cons]
            exact List.append_ne_nil_of_left_ne_nil (lowerAt_ne_nil _ _ _) _
          rw [List.getLast?_eq_some_getLast hne, Option.some_or, ← List.getLast?_eq_some_getLast hne] at h
          rw [List.getLast?_cons_cons]
          exact ih h

/-- A mark at the end was at the end. -/
theorem getLast?_of_lowerChars (hd : isMark d = true) (h : (lowerChars cs).getLast? = some d) :
    cs.getLast? = some d :=
  getLast?_of_lowerFrom hd h

/-- Two characters next to each other in a text are so in its first part, in its second part, or where these
    meet. -/
theorem pair_of_append {s t : List Char} (h : [d, e] <:+: s ++ t) :
    [d, e] <:+: s ∨ [d, e] <:+: t ∨ s.getLast? = some d ∧ t.head? = some e := by
  rcases List.infix_append_iff.mp h with hleft | hright | ⟨first, second, heq, hsuffix, hprefix⟩
  · exact .inl hleft
  · exact .inr (.inl hright)
  · match first with
    | [] =>
        obtain rfl : [d, e] = second := heq
        exact .inr (.inl hprefix.isInfix)
    | [_] =>
        obtain ⟨rfl, rfl⟩ := List.cons.inj heq
        obtain ⟨before, rfl⟩ := hsuffix
        obtain ⟨after, rfl⟩ := hprefix
        exact .inr (.inr ⟨List.getLast?_concat, rfl⟩)
    | _ :: _ :: more =>
        obtain ⟨rfl, htail⟩ := List.cons.inj heq
        obtain ⟨rfl, hnil⟩ := List.cons.inj htail
        obtain ⟨rfl, _⟩ := List.append_eq_nil_iff.mp hnil.symm
        exact .inl hsuffix.isInfix

theorem pair_of_lowerFrom (hd : isMark d = true) (he : isMark e = true)
    (h : [d, e] <:+: lowerFrom casedBefore [] cs) : [d, e] <:+: cs := by
  induction cs generalizing casedBefore with
  | nil => exact absurd (List.eq_nil_of_infix_nil h) (List.cons_ne_nil _ _)
  | cons c cs ih =>
      rw [lowerFrom_cons] at h
      rcases pair_of_append h with hfirst | hlater | ⟨hlast, hhead⟩
      · -- a mark does not become two characters
        obtain ⟨rfl, _⟩ := eq_of_mem_lowerAt (hfirst.subset List.mem_cons_self) hd
        have hone := length_lowerAt_of_isMark hd casedBefore cs
        have htwo := hfirst.length_le
        rw [hone] at htwo
        exact absurd htwo (Nat.not_succ_le_self 1)
      · exact (ih hlater).trans (List.suffix_cons c cs).isInfix
      · obtain ⟨rfl, _⟩ := eq_of_mem_lowerAt (List.mem_of_getLast? hlast) hd
        obtain ⟨cs', rfl⟩ := List.head?_eq_some_iff.mp (head?_of_lowerFrom he hhead)
        exact ⟨[], cs', rfl⟩

/-- Two marks next to each other were so before. -/
theorem pair_of_lowerChars (hd : isMark d = true) (he : isMark e = true) (h : [d, e] <:+: lowerChars cs) :
    [d, e] <:+: cs :=
  pair_of_lowerFrom hd he h

end Marks

/-! ## Letter case -/

/-- The same character, up to the case of an ASCII letter. -/
def SameLetter (c d : Char) : Prop := c.toLower = d.toLower

section SameLetter

variable {c d : Char} {s t : List Char}

/-- Characters that are not equal are letters. -/
theorem SameLetter.eq_or_isAlpha (h : SameLetter c d) : c = d ∨ c.isAlpha = true ∧ d.isAlpha = true := by
  have halpha : c.isAlpha = d.isAlpha := by
    rw [← Char.isAlpha_toLower_eq_isAlpha c, ← Char.isAlpha_toLower_eq_isAlpha d, h]
  have hkept : ∀ {x : Char}, x.isAlpha = false → x.toLower = x := by
    intro x hx
    apply Char.toLower_eq_of_not_isUpper
    intro hupper
    rw [isAlpha_of_isUpper hupper] at hx
    cases hx
  cases hc : c.isAlpha with
  | true => exact .inr ⟨rfl, by rw [← halpha, hc]⟩
  | false =>
      have hd : d.isAlpha = false := by rw [← halpha, hc]
      have heq : c.toLower = d.toLower := h
      rw [hkept hc, hkept hd] at heq
      exact .inl heq

theorem isCased_of_isAlpha (h : c.isAlpha = true) : isCased c = true := by
  rw [isCased, if_pos (toNat_lt_of_isAlpha h), h]

set_option maxRecDepth 4000 in
theorem caseIgnorableRanges_letters : ∀ r ∈ caseIgnorableRanges,
    r.last < 0x41 ∨ 0x5a < r.first ∧ r.last < 0x61 ∨ 0x7a < r.first := by
  decide

theorem isCaseIgnorable_eq_false_of_isAlpha (h : c.isAlpha = true) : isCaseIgnorable c = false := by
  have hcode := isAlpha_iff_toNat.mp h
  unfold isCaseIgnorable memRanges
  rw [List.any_eq_false]
  intro r hr hinside
  simp only [Bool.and_eq_true, decide_eq_true_eq] at hinside
  have := caseIgnorableRanges_letters r hr
  omega

theorem lowerAt_of_isAlpha (h : c.isAlpha = true) (casedBefore : Bool) (rest : List Char) :
    lowerAt casedBefore c rest = [c.toLower] := by
  have hascii := toNat_lt_of_isAlpha h
  have hsigma : c ≠ 'Σ' := by
    rintro rfl
    exact absurd hascii (by decide)
  have hdotted : c ≠ 'İ' := by
    rintro rfl
    exact absurd hascii (by decide)
  rw [lowerAt, if_neg hsigma, if_neg hdotted, lowerPartner, if_pos hascii]

theorem SameLetter.isCaseIgnorable_eq (h : SameLetter c d) : isCaseIgnorable c = isCaseIgnorable d := by
  rcases h.eq_or_isAlpha with rfl | ⟨hc, hd⟩
  · rfl
  · rw [isCaseIgnorable_eq_false_of_isAlpha hc, isCaseIgnorable_eq_false_of_isAlpha hd]

theorem SameLetter.isCased_eq (h : SameLetter c d) : isCased c = isCased d := by
  rcases h.eq_or_isAlpha with rfl | ⟨hc, hd⟩
  · rfl
  · rw [isCased_of_isAlpha hc, isCased_of_isAlpha hd]

theorem startsCased_congr (h : List.Forall₂ SameLetter s t) : startsCased s = startsCased t := by
  induction h with
  | nil => rfl
  | @cons c d s t hcd _ ih =>
      unfold startsCased at ih ⊢
      rw [List.dropWhile_cons, List.dropWhile_cons, hcd.isCaseIgnorable_eq]
      cases isCaseIgnorable d with
      | true => exact ih
      | false => exact hcd.isCased_eq

theorem SameLetter.lowerAt_eq (h : SameLetter c d) (hrest : startsCased s = startsCased t) (casedBefore : Bool) :
    lowerAt casedBefore c s = lowerAt casedBefore d t := by
  rcases h.eq_or_isAlpha with rfl | ⟨hc, hd⟩
  · rw [lowerAt, lowerAt, hrest]
  · rw [lowerAt_of_isAlpha hc, lowerAt_of_isAlpha hd, h]

theorem lowerFrom_congr (h : List.Forall₂ SameLetter s t) (casedBefore : Bool) :
    lowerFrom casedBefore [] s = lowerFrom casedBefore [] t := by
  induction h generalizing casedBefore with
  | nil => rfl
  | @cons c d s t hcd hst ih =>
      have hafter : casedAfter casedBefore c = casedAfter casedBefore d := by
        rw [casedAfter, casedAfter, hcd.isCaseIgnorable_eq, hcd.isCased_eq]
      rw [lowerFrom_cons, lowerFrom_cons, hcd.lowerAt_eq (startsCased_congr hst), hafter, ih]

/-- **The case of ASCII letters does not matter**, not even to the final form of a letter that stands after
    them. -/
theorem lowerChars_congr (h : List.Forall₂ SameLetter s t) : lowerChars s = lowerChars t := lowerFrom_congr h false

end SameLetter

end Text
end CodeCensus
