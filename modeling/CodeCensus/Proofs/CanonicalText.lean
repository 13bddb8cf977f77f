import CodeCensus.Proofs.CommentRemoval
import CodeCensus.Proofs.LowerCase
import CodeCensus.Proofs.TextParts

/-!
# What canonical text looks like

Each pass of the way to the canonical text takes something out, and what stood on both sides of it comes
together. So it has to be shown that nothing which an earlier pass took out comes back. A line that was cut has
no mark of a line comment, and neither has any word of it, since words are parts of lines. Between two words
there is one space, which makes no mark with its neighbours. Lower-casing puts in none of these characters.

## Contents
- `hash_not_mem_cutLine`, `slashes_not_in_cutLine` — lines without line comments;
- `lineWords`, `CutWords`, `cutWords_fields` — the words that are left;
- `spaced`, `pair_of_spaced` — words with one space between any two, and what is not in them;
- `IsCanonical`, `canonical_text_clean` — the canonical text of every file.
-/

namespace CodeCensus

/-! ## Lines without comments -/

theorem beforeSlashes_isPrefix (line : List Char) : beforeSlashes line <+: line := by
  induction line with
  | nil => exact List.prefix_rfl
  | cons c line ih =>
      by_cases hslashes : c = '/' ∧ line.head? = some '/'
      · obtain ⟨rfl, hslash⟩ := hslashes
        obtain ⟨line', rfl⟩ := List.head?_eq_some_iff.mp hslash
        exact List.nil_prefix
      · rw [beforeSlashes_cons hslashes]
        exact List.cons_prefix_cons.mpr ⟨rfl, ih⟩

theorem slashes_not_in_beforeSlashes (line : List Char) : ¬['/', '/'] <:+: beforeSlashes line := by
  induction line with
  | nil => exact fun h => absurd (List.eq_nil_of_infix_nil h) (List.cons_ne_nil _ _)
  | cons c line ih =>
      by_cases hslashes : c = '/' ∧ line.head? = some '/'
      · obtain ⟨rfl, hslash⟩ := hslashes
        obtain ⟨line', rfl⟩ := List.head?_eq_some_iff.mp hslash
        exact fun h => absurd (List.eq_nil_of_infix_nil h) (List.cons_ne_nil _ _)
      · rw [beforeSlashes_cons hslashes, List.infix_cons_iff]
        rintro (hfront | hlater)
        · -- the line would have gone on with a second slash
          obtain ⟨rfl, hnext⟩ := List.cons_prefix_cons.mp hfront
          obtain ⟨rest, hrest⟩ := hnext.trans (beforeSlashes_isPrefix line)
          exact hslashes ⟨rfl, by rw [← hrest]; rfl⟩
        · exact ih hlater

theorem slashes_not_in_cutLine (line : List Char) : ¬['/', '/'] <:+: cutLine line := fun h =>
  slashes_not_in_beforeSlashes line (h.trans (List.takeWhile_prefix _).isInfix)

theorem hash_not_mem_cutLine (line : List Char) : '#' ∉ cutLine line := fun h =>
  absurd (List.mem_takeWhile_imp h) (by decide)

/-- The words of the lines that are in no line comment. -/
def lineWords (lines : List (List Char)) : List (List Char) :=
  lines.flatMap fun line => Text.fields Text.isBlank (cutLine line)

theorem fields_dropLineComments (cs : List Char) :
    Text.fields Text.isBlank (dropLineComments cs) = lineWords (Text.segments cs) := by
  rw [dropLineComments_eq, Text.fields_joinLines Text.isBlank_newline, List.flatMap_map]
  rfl

/-- Every word is a part of some line that was cut. -/
def CutWords (words : List (List Char)) : Prop :=
  ∀ word ∈ words, ∃ line, Text.IsField Text.isBlank (cutLine line) word

/-- So is every word that is left. -/
theorem cutWords_fields (cs : List Char) : CutWords (Text.fields Text.isBlank (dropLineComments cs)) := by
  intro word h
  rw [fields_dropLineComments] at h
  obtain ⟨line, _, hword⟩ := List.mem_flatMap.mp h
  exact ⟨line, Text.isField_of_mem hword⟩

/-! ## Words with spaces between them -/

/-- The words with one space between any two. -/
def spaced (words : List (List Char)) : List Char := List.intercalate [' '] words

theorem spaced_cons_cons (word next : List Char) (later : List (List Char)) :
    spaced (word :: next :: later) = word ++ ' ' :: spaced (next :: later) := by
  rw [spaced, List.intercalate_cons_cons, List.append_assoc]
  rfl

@[simp] theorem spaced_singleton (word : List Char) : spaced [word] = word := List.intercalate_singleton

section Spaced

variable {words : List (List Char)} {d e : Char}

theorem mem_of_mem_spaced (h : d ∈ spaced words) : d = ' ' ∨ ∃ word ∈ words, d ∈ word := by
  induction words with
  | nil => cases h
  | cons word later ih =>
      cases later with
      | nil => exact .inr ⟨word, List.mem_cons_self, by simpa using h⟩
      | cons next later =>
          rw [spaced_cons_cons, List.mem_append, List.mem_cons] at h
          rcases h with hword | rfl | hlater
          · exact .inr ⟨word, List.mem_cons_self, hword⟩
          · exact .inl rfl
          · rcases ih hlater with rfl | ⟨other, hother, hd⟩
            · exact .inl rfl
            · exact .inr ⟨other, List.mem_cons_of_mem word hother, hd⟩

theorem spaced_ne_nil {word : List Char} (hword : word ≠ []) (later : List (List Char)) :
    spaced (word :: later) ≠ [] := by
  cases later with
  | nil => simpa using hword
  | cons next later =>
      rw [spaced_cons_cons]
      exact List.append_ne_nil_of_left_ne_nil hword _

/-- At the front is a character of a word. -/
theorem mem_of_head?_spaced (hne : ∀ word ∈ words, word ≠ []) (h : (spaced words).head? = some d) :
    ∃ word ∈ words, d ∈ word := by
  cases words with
  | nil => cases h
  | cons word later =>
      refine ⟨word, List.mem_cons_self, ?_⟩
      cases later with
      | nil => exact List.mem_of_mem_head? (by simpa using h)
      | cons next later =>
          rw [spaced_cons_cons, List.head?_append_of_ne_nil _ (hne word List.mem_cons_self)] at h
          exact List.mem_of_mem_head? h

/-- At the end is a character of a word. -/
theorem mem_of_getLast?_spaced (hne : ∀ word ∈ words, word ≠ []) (h : (spaced words).getLast? = some d) :
    ∃ word ∈ words, d ∈ word := by
  induction words with
  | nil => cases h
  | cons word later ih =>
      obtain ⟨_, hlater⟩ := List.forall_mem_cons.mp hne
      cases later with
      | nil => exact ⟨word, List.mem_cons_self, List.mem_of_getLast? (by simpa using h)⟩
      | cons next later =>
          have hnonempty := spaced_ne_nil (hlater next List.mem_cons_self) later
          rw [spaced_cons_cons, List.append_cons, List.getLast?_append_of_ne_nil _ hnonempty] at h
          obtain ⟨other, hother, hd⟩ := ih hlater h
          exact ⟨other, List.mem_cons_of_mem word hother, hd⟩

/-- **Neighbours in spaced words** are neighbours in a word, or one of them is a space and the other one is in a
    word. -/
theorem pair_of_spaced (hne : ∀ word ∈ words, word ≠ []) (h : [d, e] <:+: spaced words) :
    (∃ word ∈ words, [d, e] <:+: word) ∨ (d = ' ' ∧ ∃ word ∈ words, e ∈ word) ∨
      (e = ' ' ∧ ∃ word ∈ words, d ∈ word) := by
  induction words with
  | nil => exact absurd (List.eq_nil_of_infix_nil h) (List.cons_ne_nil _ _)
  | cons word later ih =>
      obtain ⟨_, hlater⟩ := List.forall_mem_cons.mp hne
      cases later with
      | nil => exact .inl ⟨word, List.mem_cons_self, by simpa using h⟩
      | cons next later =>
          rw [spaced_cons_cons] at h
          rcases Text.pair_of_append h with hword | hrest | ⟨hlast, hspace⟩
          · exact .inl ⟨word, List.mem_cons_self, hword⟩
          · rcases List.infix_cons_iff.mp hrest with hfront | hrest
            · obtain ⟨rfl, rest, hrest⟩ := List.cons_prefix_cons.mp hfront
              obtain ⟨other, hother, he⟩ := mem_of_head?_spaced hlater (by rw [← hrest]; rfl)
              exact .inr (.inl ⟨rfl, other, List.mem_cons_of_mem word hother, he⟩)
            · rcases ih hlater hrest with ⟨other, hother, hpair⟩ | ⟨hd, other, hother, he⟩ | ⟨he, other, hother, hd⟩
              · exact .inl ⟨other, List.mem_cons_of_mem word hother, hpair⟩
              · exact .inr (.inl ⟨hd, other, List.mem_cons_of_mem word hother, he⟩)
              · exact .inr (.inr ⟨he, other, List.mem_cons_of_mem word hother, hd⟩)
          · obtain rfl : ' ' = e := by simpa using hspace
            exact .inr (.inr ⟨rfl, word, List.mem_cons_self, List.mem_of_getLast? hlast⟩)

end Spaced

theorem isBlank_space : Text.isBlank ' ' = true := by decide

namespace CutWords

variable {words : List (List Char)} (h : CutWords words)
include h

theorem ne_nil : ∀ word ∈ words, word ≠ [] := by
  intro word hmem
  obtain ⟨line, hfield⟩ := h word hmem
  exact hfield.nonempty

theorem no_blank {c : Char} (hc : Text.isBlank c = true) : ¬∃ word ∈ words, c ∈ word := by
  rintro ⟨word, hmem, hcmem⟩
  obtain ⟨line, hfield⟩ := h word hmem
  rw [hfield.unbroken c hcmem] at hc
  cases hc

theorem no_hash : '#' ∉ spaced words := by
  intro hhash
  rcases mem_of_mem_spaced hhash with heq | ⟨word, hmem, hinside⟩
  · exact absurd heq (by decide)
  · obtain ⟨line, hfield⟩ := h word hmem
    exact hash_not_mem_cutLine line (hfield.part.subset hinside)

theorem no_slashes : ¬['/', '/'] <:+: spaced words := by
  intro hslashes
  rcases pair_of_spaced h.ne_nil hslashes with ⟨word, hmem, hinside⟩ | ⟨heq, _⟩ | ⟨heq, _⟩
  · obtain ⟨line, hfield⟩ := h word hmem
    exact slashes_not_in_cutLine line (hinside.trans hfield.part)
  · exact absurd heq (by decide)
  · exact absurd heq (by decide)

/-- The only blanks are those between the words. -/
theorem blank_eq {c : Char} (hc : c ∈ spaced words) (hblank : Text.isBlank c = true) : c = ' ' := by
  rcases mem_of_mem_spaced hc with heq | hinside
  · exact heq
  · exact absurd hinside (h.no_blank hblank)

theorem no_spaces : ¬[' ', ' '] <:+: spaced words := by
  intro hspaces
  -- one of the two would be in a word
  rcases pair_of_spaced h.ne_nil hspaces with ⟨word, hmem, hinside⟩ | ⟨_, hinside⟩ | ⟨_, hinside⟩
  · exact h.no_blank isBlank_space ⟨word, hmem, hinside.subset List.mem_cons_self⟩
  · exact h.no_blank isBlank_space hinside
  · exact h.no_blank isBlank_space hinside

theorem head_ne : (spaced words).head? ≠ some ' ' := fun hhead =>
  h.no_blank isBlank_space (mem_of_head?_spaced h.ne_nil hhead)

theorem last_ne : (spaced words).getLast? ≠ some ' ' := fun hlast =>
  h.no_blank isBlank_space (mem_of_getLast?_spaced h.ne_nil hlast)

end CutWords

/-! ## Canonical text -/

/-- Text without marks of line comments and without capital letters of ASCII, whose only blanks are spaces that
    stand alone between other characters. -/
structure IsCanonical (text : List Char) : Prop where
  no_hash : '#' ∉ text
  no_slashes : ¬['/', '/'] <:+: text
  no_capital : ∀ c ∈ text, c.isUpper = false
  blank_eq : ∀ c ∈ text, Text.isBlank c = true → c = ' '
  no_spaces : ¬[' ', ' '] <:+: text
  head_ne : text.head? ≠ some ' '
  last_ne : text.getLast? ≠ some ' '

theorem canonicalChars_eq (cs : List Char) : canonicalChars cs =
    Text.lowerChars (spaced (Text.fields Text.isBlank (dropLineComments (dropBlockComments cs)))) := rfl

/-- **Canonical text is clean.** Whatever the content of a file is, no mark of a line comment is left in its
    canonical text or comes about by what is taken out, and neither does any blank but single spaces. -/
theorem canonical_text_clean (content : String) : IsCanonical (canonicalText content).toList := by
  rw [canonicalText, String.toList_ofList, canonicalChars_eq]
  have hwords := cutWords_fields (dropBlockComments content.toList)
  have hspace : Text.isMark ' ' = true := Text.isMark_of_isBlank isBlank_space
  constructor
  case no_hash => exact fun h => hwords.no_hash (Text.mem_of_mem_lowerChars (by decide) h)
  case no_slashes => exact fun h => hwords.no_slashes (Text.pair_of_lowerChars (by decide) (by decide) h)
  case no_capital => exact fun c hc => Text.isUpper_eq_false_of_mem_lowerChars hc
  case blank_eq =>
    intro c hc hblank
    exact hwords.blank_eq (Text.mem_of_mem_lowerChars (Text.isMark_of_isBlank hblank) hc) hblank
  case no_spaces => exact fun h => hwords.no_spaces (Text.pair_of_lowerChars hspace hspace h)
  case head_ne => exact fun h => hwords.head_ne (Text.head?_of_lowerChars hspace h)
  case last_ne => exact fun h => hwords.last_ne (Text.getLast?_of_lowerChars hspace h)

end CodeCensus
