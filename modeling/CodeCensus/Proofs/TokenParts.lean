import CodeCensus.Proofs.CodeRuns
import CodeCensus.Proofs.LowerCase
import CodeCensus.Proofs.TextParts
import CodeCensus.Source.Token

/-!
# Tokens of parts of a text

Tokens are found between separators, and each is put in lower case by itself. So a text has the tokens of its
parts, wherever it is divided at a separator, and a letter whose lower case depends on its neighbours is not
affected by where the text is divided. The lines of a block are lines of its file, without the blanks at their
ends. Both line feeds and blanks are separators, so the tokens of the block stand one after another among those of
the file.

## Contents
- `tokensOf`, `tokenize_eq` — tokens from the runs between separators;
- `tokenize_append` — the tokens on both sides of a separator;
- `IsToken`, `isToken_of_mem` — what every token is;
- `tokenize_block` — the tokens of a block;
- `tokens_of_parts` — all of these.
-/

namespace CodeCensus

/-! ## Runs between separators -/

/-- The tokens among some runs. -/
def tokensOf (runs : List (List Char)) : List String :=
  (runs.filter fun run => minTokenLength ≤ run.length).map fun run => String.ofList (Text.lowerChars run)

theorem tokenize_eq (text : String) : tokenize text = tokensOf (Text.fields isSeparator text.toList) := rfl

theorem tokensOf_append (runs more : List (List Char)) : tokensOf (runs ++ more) = tokensOf runs ++ tokensOf more := by
  rw [tokensOf, List.filter_append, List.map_append]
  rfl

theorem tokensOf_infix {runs more : List (List Char)} (h : runs <:+: more) : tokensOf runs <:+: tokensOf more :=
  (h.filter _).map _

theorem isSeparator_of_isBlank {c : Char} (h : Text.isBlank c = true) : isSeparator c = true := by
  rw [isSeparator, h, Bool.true_or]

theorem isSeparator_newline : isSeparator '\n' = true := isSeparator_of_isBlank Text.isBlank_newline

/-- **The tokens on both sides of a separator.** -/
theorem tokenize_append (a b : String) {c : Char} (hc : isSeparator c = true) :
    tokenize (a ++ String.singleton c ++ b) = tokenize a ++ tokenize b := by
  have hchars : (a ++ String.singleton c ++ b).toList = a.toList ++ c :: b.toList := by simp
  rw [tokenize_eq, hchars, Text.fields_append hc, tokensOf_append]
  rfl

/-! ## Single tokens -/

/-- At least two characters, none of them a separator. -/
structure IsToken (token : String) : Prop where
  long : 2 ≤ token.length
  no_blank : ∀ c ∈ token.toList, Text.isBlank c = false
  no_delimiter : ∀ c ∈ token.toList, isDelimiter c = false

/-- Separators are marks, so that lower-casing puts none in. -/
theorem isMark_of_isSeparator {c : Char} (h : isSeparator c = true) : Text.isMark c = true := by
  rw [isSeparator, Bool.or_eq_true] at h
  rcases h with hblank | hdelimiter
  · exact Text.isMark_of_isBlank hblank
  · have hall : ['\x7b', '\x7d', '(', ')', ';', ',', '.', '[', ']'].all Text.isMark = true := rfl
    exact List.all_eq_true.mp hall c (List.contains_iff_mem.mp hdelimiter)

/-- **What every token is.** -/
theorem isToken_of_mem {text token : String} (h : token ∈ tokenize text) : IsToken token := by
  rw [tokenize_eq] at h
  obtain ⟨run, hrun, rfl⟩ := List.mem_map.mp h
  obtain ⟨hfield, hlong⟩ := List.mem_filter.mp hrun
  have hunbroken := (Text.isField_of_mem hfield).unbroken
  have hkept : ∀ c ∈ Text.lowerChars run, isSeparator c = false := by
    intro c hc
    apply Bool.eq_false_iff.mpr
    intro hseparator
    have hbefore := Text.mem_of_mem_lowerChars (isMark_of_isSeparator hseparator) hc
    rw [hunbroken c hbefore] at hseparator
    cases hseparator
  constructor
  case long =>
    rw [String.length_ofList]
    exact Nat.le_trans (of_decide_eq_true hlong) (Text.length_le_lowerChars run)
  case no_blank =>
    intro c hc
    rw [String.toList_ofList] at hc
    exact (Bool.or_eq_false_iff.mp (hkept c hc)).1
  case no_delimiter =>
    intro c hc
    rw [String.toList_ofList] at hc
    exact (Bool.or_eq_false_iff.mp (hkept c hc)).2

/-! ## Tokens of blocks -/

/-- The runs of a block's text are those of the lines that it shows. -/
theorem fields_ofSpan (content : String) (first last : Nat) :
    Text.fields isSeparator (CodeBlock.ofSpan (Text.splitLines content) first last).content.toList =
      (((Text.lineChars content.toList).drop (first - 1)).take (last + 1 - first)).flatMap
        (Text.fields isSeparator) := by
  have hlines : (CodeBlock.ofSpan (Text.splitLines content) first last).lines.map String.toList =
      (((Text.lineChars content.toList).drop (first - 1)).take (last + 1 - first)).map
        (Text.trimWhere Text.isBlank) := by
    rw [← Text.splitLines_toList, ← List.map_drop, ← List.map_take, List.map_map]
    show List.map String.toList (List.map Text.trim _) = _
    rw [List.map_map]
    exact List.map_congr_left fun line _ => Text.toList_trim line
  rw [CodeBlock.content, Text.toList_joinTexts, hlines, Text.fields_joinLines isSeparator_newline, List.flatMap_map]
  congr 1
  funext line
  exact Text.fields_trimWhere (fun c hc => isSeparator_of_isBlank hc) line

/-- **The tokens of a block** stand one after another among those of its file. -/
theorem tokenize_block {minLines : Nat} (hmin : 1 ≤ minLines) {profile : Profile} {content : String} {b : CodeBlock}
    (hb : b ∈ extractBlocks profile minLines (Text.splitLines content)) : tokenize b.content <:+: tokenize content := by
  obtain ⟨first, last, _, _, rfl⟩ := (mem_extractBlocks hmin).mp hb
  rw [tokenize_eq, tokenize_eq, fields_ofSpan, ← Text.fields_lineChars isSeparator_newline content.toList]
  apply tokensOf_infix
  generalize Text.lineChars content.toList = lines
  -- the lines before the block, those of the block, and those after it
  have hdrop := List.take_append_drop (first - 1) lines
  have htake := List.take_append_drop (last + 1 - first) (lines.drop (first - 1))
  rw [← htake] at hdrop
  conv => rhs; rw [← hdrop]
  rw [List.flatMap_append, List.flatMap_append, ← List.append_assoc]
  exact List.infix_append _ _ _

/-- **Tokens of parts of a text.** A text that is divided at a separator has the tokens of its parts; every token has
    at least two characters and no separator; and the tokens of a block are a part of those of its file, so that
    its token set is a subset. -/
theorem tokens_of_parts :
    (∀ (a b : String) (c : Char), isSeparator c = true →
      tokenize (a ++ String.singleton c ++ b) = tokenize a ++ tokenize b) ∧
    (∀ text, ∀ token ∈ tokenize text, IsToken token) ∧
    ∀ (content : String) (profile : Profile) (minLines : Nat), 1 ≤ minLines →
      ∀ b ∈ extractBlocks profile minLines (Text.splitLines content),
        tokenize b.content <:+: tokenize content ∧
          ∀ token ∈ Std.HashSet.ofList (tokenize b.content), token ∈ Std.HashSet.ofList (tokenize content) := by
  refine ⟨fun a b c hc => tokenize_append a b hc, fun text token htoken => isToken_of_mem htoken, ?_⟩
  intro content profile minLines hmin b hb
  have hpart := tokenize_block hmin hb
  refine ⟨hpart, ?_⟩
  intro token htoken
  rw [Std.HashSet.mem_ofList, List.contains_iff_mem] at htoken ⊢
  exact hpart.subset htoken

/-- A text that is divided where a letter takes its final form, and a block in the middle of a file. -/
theorem tokens_of_parts_of_block :
    let content := "ab\n\n aΣ.c\nde;Σ1 \n"
    (isSeparator '.' = true ∧ tokenize ("aΣ" ++ String.singleton '.' ++ "c") = tokenize "aΣ" ++ tokenize "c") ∧
      1 ≤ 2 ∧ ∃ b ∈ extractBlocks {} 2 (Text.splitLines content),
        b.lines = ["aΣ.c", "de;Σ1"] ∧ tokenize b.content <:+: tokenize content := by
  intro content
  obtain ⟨hdivided, _, hblocks⟩ := tokens_of_parts
  have hdot : isSeparator '.' = true := by decide
  have hmin : 1 ≤ 2 := by decide
  have hrun : IsCodeRun {} (Text.splitLines content) 3 4 :=
    ⟨by decide, by decide, by decide, by decide, by decide, by decide⟩
  have hb : CodeBlock.ofSpan (Text.splitLines content) 3 4 ∈ extractBlocks {} 2 (Text.splitLines content) :=
    (mem_extractBlocks hmin).mpr ⟨3, 4, hrun, by decide, rfl⟩
  exact ⟨⟨hdot, hdivided _ _ _ hdot⟩, hmin, _, hb, by decide, (hblocks content {} 2 hmin _ hb).1⟩

end CodeCensus
