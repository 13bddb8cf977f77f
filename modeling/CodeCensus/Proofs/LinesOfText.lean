import CodeCensus.Proofs.TextParts
import Mathlib.Data.List.Basic

/-!
# Lines of a text

A text has one part more than it has line feeds, and its lines are these parts without an empty one at the end.
So the end of a text decides what its lines are: a text that ends with a line feed has the parts in front of
that line feed as its lines, the empty text has none, and any other text has all of its parts. Whatever is
said of the lines of a text is said of these three cases.

## Contents
- `Text.EndsLine` — a text that ends with a line feed;
- `Text.segments_between`, `Text.length_segments`, `Text.getLast?_segments` — the parts of a text;
- `Text.lineChars_between`, `Text.lineChars_closed`, `Text.lineChars_open` — its lines, by how it ends;
- `lines_recover_text` — no line holds a line feed, the lines make up the text, how many there are, and the
  lines of a text that is cut behind a line feed.
-/

namespace CodeCensus
namespace Text

/-- The last character of the text is a line feed. -/
def EndsLine (content : String) : Prop := content.toList.getLast? = some '\n'

instance (content : String) : Decidable (EndsLine content) := inferInstanceAs (Decidable (_ = _))

/-! ## Parts -/

/-- A line feed divides the parts of a text. -/
theorem segments_between (front back : List Char) :
    segments (front ++ '\n' :: back) = segments front ++ segments back := by
  induction front with
  | nil => rw [List.nil_append, segments_newline, segments_nil, List.singleton_append]
  | cons c front ih =>
      by_cases hc : c = '\n'
      · rw [hc, List.cons_append, segments_newline, segments_newline, ih, List.cons_append]
      · obtain ⟨first, later, h⟩ := exists_segments front
        rw [h, List.cons_append] at ih
        rw [List.cons_append, segments_cons hc ih, segments_cons hc h, List.cons_append]

theorem segments_ne_nil (cs : List Char) : segments cs ≠ [] := List.cons_ne_nil _ _

/-- There is one part more than there are line feeds. -/
theorem length_segments (cs : List Char) : (segments cs).length = cs.count '\n' + 1 := by
  induction cs with
  | nil => rfl
  | cons c cs ih =>
      by_cases hc : c = '\n'
      · rw [hc, segments_newline, List.length_cons, ih, List.count_cons_self]
      · obtain ⟨first, later, h⟩ := exists_segments cs
        rw [h, List.length_cons] at ih
        rw [segments_cons hc h, List.length_cons, ih, List.count_cons_of_ne hc]

theorem joinLines_concat {lines : List (List Char)} (hne : lines ≠ []) (last : List Char) :
    joinLines (lines ++ [last]) = joinLines lines ++ '\n' :: last := by
  induction lines with
  | nil => exact absurd rfl hne
  | cons line lines ih =>
      cases lines with
      | nil => rw [List.singleton_append, joinLines_cons_cons, joinLines_singleton, joinLines_singleton]
      | cons next later =>
          have htail := ih (List.cons_ne_nil next later)
          rw [List.cons_append] at htail
          rw [List.cons_append, List.cons_append, joinLines_cons_cons, htail, joinLines_cons_cons,
            List.append_assoc, List.cons_append]

/-- The last part is empty if nothing stands behind the last line feed. -/
theorem getLast?_segments (cs : List Char) :
    (segments cs).getLast? = some [] ↔ cs = [] ∨ cs.getLast? = some '\n' := by
  constructor
  · intro hlast
    obtain ⟨lines, hlines⟩ := List.getLast?_eq_some_iff.mp hlast
    have hjoined := joinLines_segments cs
    rw [hlines] at hjoined
    by_cases hnil : lines = []
    · rw [hnil, List.nil_append, joinLines_singleton] at hjoined
      exact .inl hjoined.symm
    · rw [joinLines_concat hnil] at hjoined
      right
      rw [← hjoined, List.getLast?_concat]
  · rintro (rfl | hlast)
    · rfl
    · obtain ⟨front, rfl⟩ := List.getLast?_eq_some_iff.mp hlast
      rw [segments_between, segments_nil, List.getLast?_concat]

/-! ## Lines -/

@[simp] theorem lineChars_nil : lineChars [] = [] := rfl

/-- What stands behind a line feed has lines of its own. -/
theorem lineChars_between (front back : List Char) :
    lineChars (front ++ '\n' :: back) = segments front ++ lineChars back := by
  have hback := segments_ne_nil back
  unfold lineChars
  dsimp only
  rw [segments_between, List.getLast?_append_of_ne_nil _ hback, List.dropLast_append_of_ne_nil hback]
  split <;> rfl

/-- A text that ends with a line feed. -/
theorem lineChars_closed (front : List Char) : lineChars (front ++ ['\n']) = segments front := by
  rw [lineChars_between, lineChars_nil, List.append_nil]

/-- A text whose last line is not ended. -/
theorem lineChars_open {cs : List Char} (hne : cs ≠ []) (hend : cs.getLast? ≠ some '\n') :
    lineChars cs = segments cs := by
  have hlast : (segments cs).getLast? ≠ some [] := by
    rw [Ne, getLast?_segments]
    exact fun h => h.elim hne hend
  exact if_neg hlast

theorem joinLines_lineChars_closed (front : List Char) : joinLines (lineChars (front ++ ['\n'])) = front := by
  rw [lineChars_closed, joinLines_segments]

theorem joinLines_lineChars_open {cs : List Char} (hend : cs.getLast? ≠ some '\n') :
    joinLines (lineChars cs) = cs := by
  by_cases hne : cs = []
  · rw [hne, lineChars_nil]
    rfl
  · rw [lineChars_open hne hend, joinLines_segments]

/-- A line for every line feed, and one for what stands behind the last. -/
theorem length_lineChars (cs : List Char) :
    (lineChars cs).length = cs.count '\n' + if cs ≠ [] ∧ cs.getLast? ≠ some '\n' then 1 else 0 := by
  by_cases hend : cs.getLast? = some '\n'
  · obtain ⟨front, rfl⟩ := List.getLast?_eq_some_iff.mp hend
    rw [lineChars_closed, length_segments, if_neg (fun h => h.2 hend), List.count_append, List.count_singleton_self]
  · by_cases hne : cs = []
    · simp [hne]
    · rw [lineChars_open hne hend, length_segments, if_pos ⟨hne, hend⟩]

/-! ## Strings -/

theorem toList_joinTexts_splitLines (content : String) :
    (joinTexts (splitLines content)).toList = joinLines (lineChars content.toList) := by
  rw [toList_joinTexts, splitLines_toList]

theorem joinTexts_splitLines_closed {content : String} (hend : EndsLine content) :
    content = joinTexts (splitLines content) ++ "\n" := by
  obtain ⟨front, hfront⟩ := List.getLast?_eq_some_iff.mp hend
  apply String.toList_inj.mp
  rw [String.toList_append, toList_joinTexts_splitLines, hfront, joinLines_lineChars_closed]
  rfl

theorem joinTexts_splitLines_open {content : String} (hend : ¬EndsLine content) :
    content = joinTexts (splitLines content) := by
  apply String.toList_inj.mp
  rw [toList_joinTexts_splitLines, joinLines_lineChars_open hend]

theorem endsLine_append_newline (content : String) : EndsLine (content ++ "\n") := by
  unfold EndsLine
  rw [String.toList_append]
  exact List.getLast?_concat

theorem splitLines_between (front back : String) :
    splitLines (front ++ "\n" ++ back) = splitLines (front ++ "\n") ++ splitLines back := by
  have hnewline : "\n".toList = ['\n'] := rfl
  unfold splitLines
  rw [String.toList_append, String.toList_append, hnewline, List.append_assoc, List.singleton_append,
    lineChars_between, lineChars_closed, List.map_append]

end Text

open Text

/-- **The lines of a text recover the text.** No line holds a line feed; joined by line feeds they are the text, but
    for the line feed at the end of a text that has one there; there is a line for every line feed and one for
    what stands behind the last; and a text that is cut behind a line feed has the lines of both parts. -/
theorem lines_recover_text (content rest : String) :
    (∀ line ∈ splitLines content, '\n' ∉ line.toList) ∧
      (content = joinTexts (splitLines content) ++ "\n" ↔ EndsLine content) ∧
      (content = joinTexts (splitLines content) ↔ ¬EndsLine content) ∧
      (splitLines content).length =
        content.toList.count '\n' + (if content ≠ "" ∧ ¬EndsLine content then 1 else 0) ∧
      splitLines (content ++ "\n" ++ rest) = splitLines (content ++ "\n") ++ splitLines rest := by
  refine ⟨fun line hline => not_mem_of_mem_splitLines hline, ?_, ?_, ?_, splitLines_between content rest⟩
  · constructor
    · intro hjoined
      rw [hjoined]
      exact endsLine_append_newline _
    · exact joinTexts_splitLines_closed
  · constructor
    · intro hjoined hend
      have hlonger := joinTexts_splitLines_closed hend
      rw [← hjoined] at hlonger
      have hlength := congrArg String.length hlonger
      have hone : "\n".length = 1 := rfl
      rw [String.length_append] at hlength
      omega
    · exact joinTexts_splitLines_open
  · have hempty : content ≠ "" ↔ content.toList ≠ [] := by simp
    rw [splitLines, List.length_map, length_lineChars]
    simp only [hempty, EndsLine, Ne]

/-- Blank lines at the end of a text, of which one line feed ends the last. -/
theorem lines_recover_text_blank_end :
    "" ∈ splitLines "a\n\n" ∧ '\n' ∉ "".toList ∧ EndsLine "a\n\n" ∧
      "a\n\n" = joinTexts (splitLines "a\n\n") ++ "\n" ∧ (splitLines "a\n\n").length = 2 := by
  obtain ⟨hlines, hclosed, _, hlength, _⟩ := lines_recover_text "a\n\n" ""
  have hmem : "" ∈ splitLines "a\n\n" := by decide
  have hend : EndsLine "a\n\n" := by decide
  exact ⟨hmem, hlines "" hmem, hend, hclosed.mpr hend, hlength⟩

end CodeCensus
