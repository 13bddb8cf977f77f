import CodeCensus.Text.Blank
import CodeCensus.Text.Lines

/-!
# Parts of a text

Lines are the parts of a text between line feeds, and fields are the runs of characters between separators.
Both are worked out from the end of the text; here they are described from its front, one character or one
part at a time.

## Contents
- `Text.segments_cons`, `Text.segments_append` — the lines of a text; `Text.joinLines_segments` puts them together
  again, and `Text.segments_joinLines` tells them apart;
- `Text.fields_append`, `Text.fields_joinLines` — the fields on both sides of a separator, and those of lines;
- `Text.IsField`, `Text.isField_of_mem` — what every field is;
- `Text.exists_trimWhere`, `Text.fields_trimWhere` — what trimming takes off;
- `Text.toList_joinTexts`, `Text.toList_trim`, `Text.splitLines_toList` — the same operations on strings.
-/

namespace CodeCensus
namespace Text

/-! ## Lines -/

@[simp] theorem segments_nil : segments [] = [[]] := rfl

@[simp] theorem segments_newline (cs : List Char) : segments ('\n' :: cs) = [] :: segments cs := by
  simp [segments, segmentStep]

theorem exists_segments (cs : List Char) : ∃ first later, segments cs = first :: later := ⟨_, _, rfl⟩

/-- A character that ends no line stands at the front of the first line. -/
theorem segments_cons {c : Char} (hc : c ≠ '\n') {cs first : List Char} {later : List (List Char)}
    (h : segments cs = first :: later) : segments (c :: cs) = (c :: first) :: later := by
  unfold segments at h ⊢
  obtain ⟨hfirst, hlater⟩ := List.cons.inj h
  rw [List.foldr_cons, segmentStep, if_neg hc, hfirst, hlater]

/-- Characters that end no line stand at the front of the first line. -/
theorem segments_append {line : List Char} (hline : '\n' ∉ line) {cs first : List Char}
    {later : List (List Char)} (h : segments cs = first :: later) :
    segments (line ++ cs) = (line ++ first) :: later := by
  induction line with
  | nil => exact h
  | cons c line ih =>
      obtain ⟨hc, hline⟩ := not_or.mp (mt List.mem_cons.mpr hline)
      exact segments_cons (Ne.symm hc) (ih hline)

theorem segments_append_newline {line : List Char} (hline : '\n' ∉ line) (cs : List Char) :
    segments (line ++ '\n' :: cs) = line :: segments cs := by
  rw [segments_append hline (segments_newline cs), List.append_nil]

theorem segments_of_not_mem {line : List Char} (hline : '\n' ∉ line) : segments line = [line] := by
  have h := segments_append hline segments_nil
  rwa [List.append_nil] at h

theorem joinLines_cons_cons (line next : List Char) (later : List (List Char)) :
    joinLines (line :: next :: later) = line ++ '\n' :: joinLines (next :: later) := by
  simp [joinLines, List.intercalate]

@[simp] theorem joinLines_singleton (line : List Char) : joinLines [line] = line := by
  simp [joinLines, List.intercalate]

theorem joinLines_cons (c : Char) (first : List Char) (later : List (List Char)) :
    joinLines ((c :: first) :: later) = c :: joinLines (first :: later) := by
  cases later with
  | nil => simp
  | cons next later => rw [joinLines_cons_cons, joinLines_cons_cons, List.cons_append]

/-- **The lines of a text make up the text.** -/
theorem joinLines_segments (cs : List Char) : joinLines (segments cs) = cs := by
  induction cs with
  | nil => simp
  | cons c cs ih =>
      obtain ⟨first, later, h⟩ := exists_segments cs
      by_cases hc : c = '\n'
      · rw [hc, segments_newline, h, joinLines_cons_cons, List.nil_append, ← h, ih]
      · rw [segments_cons hc h, joinLines_cons, ← h, ih]

theorem not_mem_of_mem_segments {cs line : List Char} (h : line ∈ segments cs) : '\n' ∉ line := by
  induction cs generalizing line with
  | nil =>
      obtain rfl := List.mem_singleton.mp h
      exact List.not_mem_nil
  | cons c cs ih =>
      by_cases hc : c = '\n'
      · rw [hc, segments_newline] at h
        rcases List.mem_cons.mp h with rfl | hline
        · exact List.not_mem_nil
        · exact ih hline
      · obtain ⟨first, later, hsegments⟩ := exists_segments cs
        rw [hsegments] at ih
        rw [segments_cons hc hsegments] at h
        rcases List.mem_cons.mp h with rfl | hline
        · have hfirst := ih List.mem_cons_self
          simp [Ne.symm hc, hfirst]
        · exact ih (List.mem_cons_of_mem first hline)

theorem not_mem_of_mem_lineChars {cs line : List Char} (h : line ∈ lineChars cs) : '\n' ∉ line := by
  unfold lineChars at h
  dsimp only at h
  split at h
  next => exact not_mem_of_mem_segments ((List.dropLast_sublist _).subset h)
  next => exact not_mem_of_mem_segments h

/-- **Joined lines can be told apart again.** -/
theorem segments_joinLines {lines : List (List Char)} (hne : lines ≠ []) (h : ∀ line ∈ lines, '\n' ∉ line) :
    segments (joinLines lines) = lines := by
  match lines with
  | [] => exact absurd rfl hne
  | [line] => rw [joinLines_singleton, segments_of_not_mem (h line List.mem_cons_self)]
  | line :: next :: later =>
      have hlater := segments_joinLines (List.cons_ne_nil next later)
        (fun l hl => h l (List.mem_cons_of_mem line hl))
      rw [joinLines_cons_cons, segments_append_newline (h line List.mem_cons_self), hlater]

/-! ## Fields -/

@[simp] theorem fields_nil (isSeparator : Char → Bool) : fields isSeparator [] = [] := rfl

theorem closeRun_append (run : List Char) (later more : List (List Char)) :
    closeRun run later ++ more = closeRun run (later ++ more) := by
  unfold closeRun
  split <;> rfl

/-- Later runs stay behind those that are found in front of them. -/
theorem foldr_fieldStep (isSeparator : Char → Bool) (cs : List Char) (later : List (List Char)) :
    cs.foldr (fieldStep isSeparator) ([], later) =
      ((cs.foldr (fieldStep isSeparator) ([], [])).1,
        (cs.foldr (fieldStep isSeparator) ([], [])).2 ++ later) := by
  induction cs with
  | nil => rfl
  | cons c cs ih =>
      rw [List.foldr_cons, List.foldr_cons, ih]
      unfold fieldStep
      split
      next => rw [closeRun_append]
      next => rfl

/-- **Fields on both sides of a separator.** -/
theorem fields_append {isSeparator : Char → Bool} {c : Char} (hc : isSeparator c = true)
    (before after : List Char) :
    fields isSeparator (before ++ c :: after) = fields isSeparator before ++ fields isSeparator after := by
  have hstep : (c :: after).foldr (fieldStep isSeparator) ([], []) = ([], fields isSeparator after) := by
    rw [List.foldr_cons, fieldStep, if_pos hc]
    rfl
  unfold fields at hstep ⊢
  dsimp only at hstep ⊢
  rw [List.foldr_append, hstep, foldr_fieldStep, closeRun_append]

theorem fields_separator {isSeparator : Char → Bool} {c : Char} (hc : isSeparator c = true) (cs : List Char) :
    fields isSeparator (c :: cs) = fields isSeparator cs :=
  fields_append hc [] cs

/-- Separators in front do not matter. -/
theorem fields_separators_append {isSeparator : Char → Bool} {front : List Char}
    (hfront : ∀ c ∈ front, isSeparator c = true) (cs : List Char) :
    fields isSeparator (front ++ cs) = fields isSeparator cs := by
  induction front with
  | nil => rfl
  | cons c front ih =>
      obtain ⟨hc, hfront⟩ := List.forall_mem_cons.mp hfront
      rw [List.cons_append, fields_separator hc, ih hfront]

/-- Separators at the end do not matter. -/
theorem fields_append_separators {isSeparator : Char → Bool} {back : List Char}
    (hback : ∀ c ∈ back, isSeparator c = true) (cs : List Char) :
    fields isSeparator (cs ++ back) = fields isSeparator cs := by
  cases back with
  | nil => rw [List.append_nil]
  | cons c back =>
      obtain ⟨hc, hback⟩ := List.forall_mem_cons.mp hback
      have hnone := fields_separators_append hback []
      rw [List.append_nil, fields_nil] at hnone
      rw [fields_append hc, hnone, List.append_nil]

theorem isBlank_newline : isBlank '\n' = true := by decide

/-- No field goes over the end of a line, if line feeds are separators. -/
theorem fields_joinLines {isSeparator : Char → Bool} (hnewline : isSeparator '\n' = true)
    (lines : List (List Char)) :
    fields isSeparator (joinLines lines) = lines.flatMap (fields isSeparator) := by
  match lines with
  | [] => rfl
  | [line] => simp
  | line :: next :: later =>
      rw [joinLines_cons_cons, fields_append hnewline, fields_joinLines hnewline (next :: later)]
      rfl

/-- Every field of a text is a field of one of its lines. -/
theorem fields_lineChars {isSeparator : Char → Bool} (hnewline : isSeparator '\n' = true) (cs : List Char) :
    (lineChars cs).flatMap (fields isSeparator) = fields isSeparator cs := by
  have hall : (segments cs).flatMap (fields isSeparator) = fields isSeparator cs := by
    rw [← fields_joinLines hnewline, joinLines_segments]
  unfold lineChars
  dsimp only
  split
  next hlast =>
    -- the empty part that is left out has no fields
    obtain ⟨front, hfront⟩ := List.getLast?_eq_some_iff.mp hlast
    rw [hfront, List.flatMap_append, List.flatMap_singleton, fields_nil, List.append_nil] at hall
    rw [hfront, List.dropLast_concat, hall]
  next => exact hall

/-- What a field of a text is. -/
structure IsField (isSeparator : Char → Bool) (cs field : List Char) : Prop where
  nonempty : field ≠ []
  unbroken : ∀ c ∈ field, isSeparator c = false
  part : field <:+: cs

theorem IsField.cons {isSeparator : Char → Bool} {cs field : List Char} (h : IsField isSeparator cs field)
    (c : Char) : IsField isSeparator (c :: cs) field :=
  ⟨h.nonempty, h.unbroken, h.part.trans (List.suffix_cons c cs).isInfix⟩

theorem mem_closeRun {run field : List Char} {later : List (List Char)} :
    field ∈ closeRun run later ↔ run ≠ [] ∧ field = run ∨ field ∈ later := by
  unfold closeRun
  cases run with
  | nil => simp
  | cons c run => simp

/-- While a text is divided, the first run is at its front and the later ones are fields. -/
theorem foldr_fieldStep_isField (isSeparator : Char → Bool) (cs : List Char) :
    (cs.foldr (fieldStep isSeparator) ([], [])).1 <+: cs ∧
      (∀ c ∈ (cs.foldr (fieldStep isSeparator) ([], [])).1, isSeparator c = false) ∧
      ∀ field ∈ (cs.foldr (fieldStep isSeparator) ([], [])).2, IsField isSeparator cs field := by
  induction cs with
  | nil => simp
  | cons c cs ih =>
      rw [List.foldr_cons]
      generalize cs.foldr (fieldStep isSeparator) ([], []) = state at ih ⊢
      obtain ⟨hfront, hunbroken, hlater⟩ := ih
      unfold fieldStep
      split
      next =>
        refine ⟨List.nil_prefix, by simp, ?_⟩
        intro field hfield
        rcases mem_closeRun.mp hfield with ⟨hne, rfl⟩ | hfield
        · exact .cons ⟨hne, hunbroken, hfront.isInfix⟩ c
        · exact (hlater field hfield).cons c
      next hc =>
        refine ⟨(List.cons_prefix_cons).mpr ⟨rfl, hfront⟩, ?_, fun field hfield => (hlater field hfield).cons c⟩
        exact List.forall_mem_cons.mpr ⟨Bool.eq_false_iff.mpr hc, hunbroken⟩

/-- **Fields are unbroken parts of the text.** -/
theorem isField_of_mem {isSeparator : Char → Bool} {cs field : List Char} (h : field ∈ fields isSeparator cs) :
    IsField isSeparator cs field := by
  obtain ⟨hfront, hunbroken, hlater⟩ := foldr_fieldStep_isField isSeparator cs
  rcases mem_closeRun.mp h with ⟨hne, rfl⟩ | h
  · exact ⟨hne, hunbroken, hfront.isInfix⟩
  · exact hlater field h

/-! ## Trimmed text -/

/-- Trimming takes characters off both ends that pass the test. -/
theorem exists_trimWhere (p : Char → Bool) (cs : List Char) :
    ∃ front back, cs = front ++ trimWhere p cs ++ back ∧ (∀ c ∈ front, p c = true) ∧ ∀ c ∈ back, p c = true := by
  have htaken : ∀ xs : List Char, ∀ c ∈ xs.takeWhile p, p c = true := fun _ =>
    List.all_eq_true.mp List.all_takeWhile
  refine ⟨cs.takeWhile p, ((cs.dropWhile p).reverse.takeWhile p).reverse, ?_, htaken cs, ?_⟩
  · rw [trimWhere, List.append_assoc, ← List.reverse_append, List.takeWhile_append_dropWhile, List.reverse_reverse,
      List.takeWhile_append_dropWhile]
  · intro c hc
    exact htaken _ c (List.mem_reverse.mp hc)

/-- Trimming leaves the fields as they are. -/
theorem fields_trimWhere {isSeparator p : Char → Bool} (hp : ∀ c, p c = true → isSeparator c = true)
    (cs : List Char) : fields isSeparator (trimWhere p cs) = fields isSeparator cs := by
  obtain ⟨front, back, heq, hfront, hback⟩ := exists_trimWhere p cs
  have hsame : fields isSeparator (front ++ trimWhere p cs ++ back) = fields isSeparator (trimWhere p cs) := by
    rw [fields_append_separators (fun c hc => hp c (hback c hc)),
      fields_separators_append (fun c hc => hp c (hfront c hc))]
  rw [← hsame, ← heq]

theorem trimWhere_subset (p : Char → Bool) (cs : List Char) : trimWhere p cs ⊆ cs := by
  obtain ⟨front, back, heq, _⟩ := exists_trimWhere p cs
  intro c hc
  rw [heq]
  exact List.mem_append_left back (List.mem_append_right front hc)

/-! ## Strings -/

theorem toList_joinTexts (lines : List String) : (joinTexts lines).toList = joinLines (lines.map String.toList) :=
  String.toList_intercalate

theorem toList_trim (s : String) : (trim s).toList = trimWhere isBlank s.toList := String.toList_ofList

theorem splitLines_toList (content : String) : (splitLines content).map String.toList = lineChars content.toList := by
  rw [splitLines, List.map_map]
  conv => rhs; rw [← List.map_id (lineChars content.toList)]
  exact List.map_congr_left fun _ _ => String.toList_ofList

theorem not_mem_of_mem_splitLines {content line : String} (h : line ∈ splitLines content) :
    '\n' ∉ line.toList := by
  have hline := List.mem_map_of_mem (f := String.toList) h
  rw [splitLines_toList] at hline
  exact not_mem_of_mem_lineChars hline

end Text
end CodeCensus
