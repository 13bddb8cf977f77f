import CodeCensus.Language.Profile
import CodeCensus.Proofs.TextParts
import Mathlib.Algebra.BigOperators.Group.List.Basic
import Mathlib.Algebra.Order.Ring.Int

/-!
# Keywords between word boundaries

The complexity of a text counts keywords that stand between word boundaries, from left to right and without
overlap. A line feed is no word character, so the end of a line is a boundary exactly where the end of a text would
be one, and a keyword without line feeds is counted line by line. A keyword of word characters stands between
boundaries exactly where it is a whole run of word characters; such places never overlap, so none of them is
passed over.

## Contents
- `keywordAt_append_newline`, `keywordCountFrom_append_newline` — one step and a whole scan up to the end of a line;
- `sumCounts_lineChars`, `Profile.complexity_splitLines` — a sum over the lines of a text;
- `IsWordRun`, `wordRunCount` — maximal runs of word characters, and how many there are of one sort;
- `keywordCount_eq_wordRunCount` — the count of a keyword of word characters;
- `complexity_by_lines_and_runs` — what follows for the complexity of a text.
-/

namespace CodeCensus

/-! ## One line after another -/

theorem isWordChar_newline : Text.isWordChar '\n' = false := by decide

/-- At the end of a line stands a word character exactly when one stands at the end of a text. -/
theorem any_head?_append_newline (line rest : List Char) :
    (line ++ '\n' :: rest).head?.any Text.isWordChar = line.head?.any Text.isWordChar := by
  cases line with
  | nil => exact isWordChar_newline
  | cons c line => rfl

section Lines

variable {keyword : List Char}

/-- A keyword without line feeds is found in a line whatever comes after the line. -/
theorem prefix_append_newline (hkeyword : '\n' ∉ keyword) (line rest : List Char) :
    keyword <+: line ++ '\n' :: rest ↔ keyword <+: line := by
  constructor
  · intro h
    have hline : line ++ ['\n'] <+: line ++ '\n' :: rest := ⟨rest, by simp⟩
    rcases List.prefix_or_prefix_of_prefix h hline with hshort | hlong
    · rcases List.prefix_concat_iff.mp hshort with rfl | hstarts
      · exact absurd (List.mem_append_right line List.mem_cons_self) hkeyword
      · exact hstarts
    · exact absurd (hlong.subset (List.mem_append_right line List.mem_cons_self)) hkeyword
  · intro h
    exact h.trans (List.prefix_append line _)

/-- **A keyword at the front of a line** is seen without what comes after the line. -/
theorem keywordAt_append_newline (hkeyword : '\n' ∉ keyword) (before : Option Char) (line rest : List Char) :
    keywordAt keyword before (line ++ '\n' :: rest) = keywordAt keyword before line := by
  unfold keywordAt Text.isWordBoundary
  by_cases hstarts : keyword <+: line
  · have hlong := (prefix_append_newline hkeyword line rest).mpr hstarts
    rw [any_head?_append_newline, List.drop_append_of_le_length hstarts.length_le, any_head?_append_newline,
      List.isPrefixOf_iff_prefix.mpr hlong, List.isPrefixOf_iff_prefix.mpr hstarts]
  · have hlong := mt (prefix_append_newline hkeyword line rest).mp hstarts
    rw [← List.isPrefixOf_iff_prefix, Bool.not_eq_true] at hstarts hlong
    rw [hstarts, hlong]
    rfl

/-- What comes after a line feed is read as if a text began there. -/
theorem keywordAt_newline (rest : List Char) : keywordAt keyword (some '\n') rest = keywordAt keyword none rest := by
  unfold keywordAt Text.isWordBoundary
  cases keyword.getLast? <;> simp [isWordChar_newline]

theorem keywordCountFrom_newline (rest : List Char) (found : Nat) :
    keywordCountFrom keyword (some '\n') rest found = keywordCountFrom keyword none rest found := by
  rw [keywordCountFrom.eq_def, keywordCountFrom.eq_def keyword none]
  simp only [keywordAt_newline]

/-- What was found before is added to what is found. -/
theorem keywordCountFrom_add (before : Option Char) (rest : List Char) (extra found : Nat) :
    keywordCountFrom keyword before rest (extra + found) = extra + keywordCountFrom keyword before rest found := by
  fun_induction keywordCountFrom keyword before rest found with
  | case1 before found h => rw [keywordCountFrom, if_pos h, Nat.add_assoc]
  | case2 before found h => rw [keywordCountFrom, if_neg h]
  | case3 before found c tail h hempty ih => rw [keywordCountFrom, if_pos h, if_pos hempty, Nat.add_assoc, ih]
  | case4 before found c tail h hempty ih => rw [keywordCountFrom, if_pos h, if_neg hempty, Nat.add_assoc, ih]
  | case5 before found c tail h ih => rw [keywordCountFrom, if_neg h, ih]

/-- A keyword that is found is not longer than what is left of the text. -/
theorem keyword_prefix_of_keywordAt {before : Option Char} {rest : List Char}
    (h : keywordAt keyword before rest = true) : keyword <+: rest := by
  simp only [keywordAt, Bool.and_eq_true] at h
  exact List.isPrefixOf_iff_prefix.mp h.1.1

/-- **A scan over a line feed** is a scan to the end of the line, and one of the rest from the start. -/
theorem keywordCountFrom_append_newline (hkeyword : '\n' ∉ keyword) (before : Option Char) (line rest : List Char)
    (found : Nat) :
    keywordCountFrom keyword before (line ++ '\n' :: rest) found =
      keywordCountFrom keyword none rest (keywordCountFrom keyword before line found) := by
  fun_induction keywordCountFrom keyword before line found with
  | case1 before found h =>
      -- only the empty keyword stands at the very end of a line
      have hempty : keyword = [] := List.prefix_nil.mp (keyword_prefix_of_keywordAt h)
      have hat := keywordAt_append_newline hkeyword before [] rest
      rw [List.nil_append] at hat ⊢
      rw [keywordCountFrom, hat, if_pos h, if_pos (List.isEmpty_iff.mpr hempty), keywordCountFrom_newline]
  | case2 before found h =>
      have hat := keywordAt_append_newline hkeyword before [] rest
      rw [List.nil_append] at hat ⊢
      rw [keywordCountFrom, hat, if_neg h, keywordCountFrom_newline]
  | case3 before found c tail h hempty ih =>
      have hat := keywordAt_append_newline hkeyword before (c :: tail) rest
      rw [List.cons_append] at hat ⊢
      rw [keywordCountFrom, hat, if_pos h, if_pos hempty, ih]
  | case4 before found c tail h hempty ih =>
      have hlength : keyword.length - 1 ≤ tail.length := by
        have := (keyword_prefix_of_keywordAt h).length_le
        rw [List.length_cons] at this
        omega
      have hat := keywordAt_append_newline hkeyword before (c :: tail) rest
      rw [List.cons_append] at hat ⊢
      rw [keywordCountFrom, hat, if_pos h, if_neg hempty, List.drop_append_of_le_length hlength, ih]
  | case5 before found c tail h ih =>
      have hat := keywordAt_append_newline hkeyword before (c :: tail) rest
      rw [List.cons_append] at hat ⊢
      rw [keywordCountFrom, hat, if_neg h, ih]

end Lines

/-! ## Sums over lines -/

theorem sumCounts_eq_sum (counts : List Nat) : sumCounts counts = counts.sum := rfl

/-- What adds up over a line feed, and is nothing for the empty text, adds up over the lines of a text. -/
theorem sumCounts_lineChars {f : List Char → Nat} (hempty : f [] = 0)
    (hnewline : ∀ line rest, f (line ++ '\n' :: rest) = f line + f rest) (cs : List Char) :
    sumCounts ((Text.lineChars cs).map f) = f cs := by
  have hjoined : ∀ lines : List (List Char), sumCounts (lines.map f) = f (Text.joinLines lines) := by
    intro lines
    induction lines with
    | nil => exact hempty.symm
    | cons line later ih =>
        cases later with
        | nil => simp [sumCounts_eq_sum]
        | cons next later =>
            rw [Text.joinLines_cons_cons, hnewline, ← ih]
            rfl
  have hall := hjoined (Text.segments cs)
  rw [Text.joinLines_segments] at hall
  unfold Text.lineChars
  dsimp only
  split
  next hlast =>
    -- the empty part that is left out counts for nothing
    obtain ⟨front, hfront⟩ := List.getLast?_eq_some_iff.mp hlast
    rw [hfront, sumCounts_eq_sum, List.map_append, List.sum_append] at hall
    rw [hfront, List.dropLast_concat, sumCounts_eq_sum, ← hall]
    simp [hempty]
  next => exact hall

/-- **Two texts joined by a line feed** hold a keyword as often as both together. -/
theorem keywordCount_append_newline {keyword : String} (hkeyword : '\n' ∉ keyword.toList) (a b : String) :
    keywordCount keyword (a ++ "\n" ++ b) = keywordCount keyword a + keywordCount keyword b := by
  have htext : (a ++ "\n" ++ b).toList = a.toList ++ '\n' :: b.toList := by simp
  unfold keywordCount
  rw [htext, keywordCountFrom_append_newline hkeyword]
  exact keywordCountFrom_add none b.toList _ 0

theorem keywordCount_empty (keyword : String) : keywordCount keyword "" = 0 := by
  simp [keywordCount, keywordCountFrom, keywordAt, Text.isWordBoundary]

namespace Profile

variable {p : Profile}

theorem complexity_sub_one (p : Profile) (content : String) :
    p.complexity content - 1 = sumCounts (p.keywords.map fun keyword => keywordCount keyword content) :=
  Nat.add_sub_cancel_left 1 _

theorem complexity_empty (p : Profile) : p.complexity "" - 1 = 0 := by
  rw [complexity_sub_one, sumCounts_eq_sum, List.sum_eq_zero]
  intro n hn
  obtain ⟨keyword, _, rfl⟩ := List.mem_map.mp hn
  exact keywordCount_empty keyword

/-- **Complexity adds up over a line feed.** -/
theorem complexity_append_newline (hkeywords : ∀ keyword ∈ p.keywords, '\n' ∉ keyword.toList) (a b : String) :
    p.complexity (a ++ "\n" ++ b) - 1 = (p.complexity a - 1) + (p.complexity b - 1) := by
  have hcounts : (p.keywords.map fun keyword => keywordCount keyword (a ++ "\n" ++ b)) =
      p.keywords.map fun keyword => keywordCount keyword a + keywordCount keyword b :=
    List.map_congr_left fun keyword hkeyword => keywordCount_append_newline (hkeywords keyword hkeyword) a b
  simp only [complexity_sub_one, sumCounts_eq_sum]
  rw [hcounts, List.sum_map_add]

/-- **Complexity adds up over the lines of a text.** -/
theorem complexity_splitLines (hkeywords : ∀ keyword ∈ p.keywords, '\n' ∉ keyword.toList) (content : String) :
    p.complexity content - 1 = sumCounts ((Text.splitLines content).map fun line => p.complexity line - 1) := by
  have hlines := sumCounts_lineChars (f := fun cs => p.complexity (String.ofList cs) - 1) p.complexity_empty
    (fun line rest => by
      have htext : String.ofList (line ++ '\n' :: rest) = String.ofList line ++ "\n" ++ String.ofList rest := by
        apply String.toList_injective
        simp
      rw [htext]
      exact complexity_append_newline hkeywords _ _) content.toList
  rw [String.ofList_toList] at hlines
  rw [← hlines, Text.splitLines, List.map_map]
  rfl

theorem complexity_perm {keywords : List String} (h : keywords.Perm p.keywords) (content : String) :
    { p with keywords := keywords }.complexity content = p.complexity content := by
  unfold complexity
  rw [sumCounts_eq_sum, sumCounts_eq_sum, (h.map _).sum_nat]

theorem complexity_cons (p : Profile) (keyword content : String) :
    { p with keywords := keyword :: p.keywords }.complexity content =
      p.complexity content + keywordCount keyword content := by
  simp only [complexity, sumCounts_eq_sum, List.map_cons, List.sum_cons]
  omega

end Profile

/-! ## Runs of word characters -/

/-- The run stands in the text at the given place. It consists of word characters, and neither the character just
    before it nor the one just after it is one. -/
structure IsWordRun (text : List Char) (start : Nat) (run : List Char) : Prop where
  nonempty : run ≠ []
  stands : run <+: text.drop start
  words : ∀ c ∈ run, Text.isWordChar c = true
  before : ∀ c ∈ (text.take start).getLast?, Text.isWordChar c = false
  after : ∀ c ∈ (text.drop (start + run.length)).head?, Text.isWordChar c = false

theorem any_isWordChar_eq_false {c? : Option Char} :
    c?.any Text.isWordChar = false ↔ ∀ c ∈ c?, Text.isWordChar c = false := by
  cases c? <;> simp

/-- A run as a test on the characters in it and on the two next to it, without going through all characters. -/
theorem isWordRun_iff {text run : List Char} {start : Nat} : IsWordRun text start run ↔
    run ≠ [] ∧ run <+: text.drop start ∧ run.all Text.isWordChar = true ∧
      (text.take start).getLast?.any Text.isWordChar = false ∧
      (text.drop (start + run.length)).head?.any Text.isWordChar = false := by
  rw [List.all_eq_true, any_isWordChar_eq_false, any_isWordChar_eq_false]
  constructor
  · rintro ⟨hne, hstands, hwords, hbefore, hafter⟩
    exact ⟨hne, hstands, hwords, hbefore, hafter⟩
  · rintro ⟨hne, hstands, hwords, hbefore, hafter⟩
    exact ⟨hne, hstands, hwords, hbefore, hafter⟩

instance (text : List Char) (start : Nat) (run : List Char) : Decidable (IsWordRun text start run) :=
  decidable_of_iff _ isWordRun_iff.symm

/-- The number of maximal runs of word characters in the text that are equal to the given one. -/
def wordRunCount (text run : List Char) : Nat :=
  (List.range text.length).countP fun start => IsWordRun text start run

section WordRuns

variable {keyword : List Char}

/-- The number of places in `rest` where the keyword stands between word boundaries, be they apart or not. -/
def keywordPlaces (keyword : List Char) : Option Char → List Char → Nat
  | _, [] => 0
  | before, c :: tail => (if keywordAt keyword before (c :: tail) then 1 else 0) + keywordPlaces keyword (some c) tail

/-- Between two word characters there is no boundary. -/
theorem keywordAt_between_words {b c : Char} (hb : Text.isWordChar b = true) (hc : Text.isWordChar c = true)
    (rest : List Char) : keywordAt keyword (some b) (c :: rest) = false := by
  simp [keywordAt, Text.isWordBoundary, hb, hc]

/-- Within a run of word characters there are no places. -/
theorem keywordPlaces_within_run {run : List Char} (hrun : ∀ c ∈ run, Text.isWordChar c = true) {b : Char}
    (hb : Text.isWordChar b = true) (rest : List Char) :
    keywordPlaces keyword (some b) (run ++ rest) = keywordPlaces keyword (b :: run).getLast? rest := by
  induction run generalizing b with
  | nil => rfl
  | cons c run ih =>
      obtain ⟨hc, hrun⟩ := List.forall_mem_cons.mp hrun
      rw [List.cons_append, keywordPlaces, keywordAt_between_words hb hc, if_neg Bool.false_ne_true, Nat.zero_add,
        ih hrun hc, List.getLast?_cons_cons]

/-- **The scan passes over no place** where a keyword of word characters stands. -/
theorem keywordCountFrom_eq_places (hne : keyword ≠ []) (hwords : ∀ c ∈ keyword, Text.isWordChar c = true)
    (before : Option Char) (rest : List Char) (found : Nat) :
    keywordCountFrom keyword before rest found = found + keywordPlaces keyword before rest := by
  fun_induction keywordCountFrom keyword before rest found with
  | case1 before found h => exact absurd (List.prefix_nil.mp (keyword_prefix_of_keywordAt h)) hne
  | case2 before found h => rfl
  | case3 before found c tail h hempty ih => exact absurd (List.isEmpty_iff.mp hempty) hne
  | case4 before found c tail h hempty ih =>
      -- the scan goes on behind the keyword; the places that it leaves out would be inside of a run
      obtain ⟨k, run, rfl⟩ := List.exists_cons_of_ne_nil hne
      obtain ⟨hk, hrun⟩ := List.forall_mem_cons.mp hwords
      obtain ⟨rest, hrest⟩ := keyword_prefix_of_keywordAt h
      rw [List.cons_append, List.cons.injEq] at hrest
      obtain ⟨rfl, rfl⟩ := hrest
      have hdrop : (run ++ rest).drop ((k :: run).length - 1) = rest := List.drop_left
      rw [ih, hdrop, keywordPlaces, if_pos h, keywordPlaces_within_run hrun hk, Nat.add_assoc]
  | case5 before found c tail h ih => rw [ih, keywordPlaces, if_neg h, Nat.zero_add]

/-- A keyword of word characters that stands in front of `back` has a boundary at either end when no word character
    is there. -/
theorem keywordAt_append (hne : keyword ≠ []) (hwords : ∀ c ∈ keyword, Text.isWordChar c = true)
    (before : Option Char) (back : List Char) :
    keywordAt keyword before (keyword ++ back) = true ↔
      before.any Text.isWordChar = false ∧ back.head?.any Text.isWordChar = false := by
  have hfirst : (keyword ++ back).head?.any Text.isWordChar = true := by
    rw [List.head?_append_of_ne_nil keyword hne, List.head?_eq_some_head hne]
    exact hwords _ (List.head_mem hne)
  have hlast : (keyword.getLast?.or before).any Text.isWordChar = true := by
    rw [List.getLast?_eq_some_getLast hne]
    exact hwords _ (List.getLast_mem hne)
  have hstands : keyword.isPrefixOf (keyword ++ back) = true :=
    List.isPrefixOf_iff_prefix.mpr (List.prefix_append keyword back)
  unfold keywordAt Text.isWordBoundary
  rw [hstands, hfirst, hlast, List.drop_left]
  simp

/-- **A keyword of word characters stands between boundaries where it is a whole run.** -/
theorem keywordAt_iff_isWordRun (hne : keyword ≠ []) (hwords : ∀ c ∈ keyword, Text.isWordChar c = true)
    (front rest : List Char) :
    keywordAt keyword front.getLast? rest = true ↔ IsWordRun (front ++ rest) front.length keyword := by
  have hbefore : (front ++ rest).take front.length = front := List.take_left
  have hhere : (front ++ rest).drop front.length = rest := List.drop_left
  by_cases hstands : keyword <+: rest
  · obtain ⟨back, rfl⟩ := hstands
    have hafter : (front ++ (keyword ++ back)).drop (front.length + keyword.length) = back := by
      rw [← List.drop_drop, hhere, List.drop_left]
    rw [keywordAt_append hne hwords, isWordRun_iff, hbefore, hhere, hafter, List.all_eq_true]
    constructor
    · rintro ⟨hfront, hback⟩
      exact ⟨hne, List.prefix_append keyword back, hwords, hfront, hback⟩
    · rintro ⟨_, _, _, hfront, hback⟩
      exact ⟨hfront, hback⟩
  · constructor
    · intro h
      exact absurd (keyword_prefix_of_keywordAt h) hstands
    · intro h
      exact absurd (hhere ▸ h.stands) hstands

/-- The runs that start in `rest` are the places of the keyword there. By induction on `rest`, for every text in
    front of it. -/
theorem countP_range'_eq_places (hne : keyword ≠ []) (hwords : ∀ c ∈ keyword, Text.isWordChar c = true)
    (front rest : List Char) :
    (List.range' front.length rest.length).countP (fun start => IsWordRun (front ++ rest) start keyword) =
      keywordPlaces keyword front.getLast? rest := by
  induction rest generalizing front with
  | nil => rfl
  | cons c tail ih =>
      have htail := ih (front ++ [c])
      rw [List.length_append, List.length_singleton, List.append_assoc, List.singleton_append,
        List.getLast?_concat] at htail
      rw [List.length_cons, List.range'_succ, List.countP_cons, htail, keywordPlaces, Nat.add_comm]
      simp only [decide_eq_true_eq, keywordAt_iff_isWordRun hne hwords]

end WordRuns

/-- **A keyword of word characters is counted once for each maximal run that is equal to it.** -/
theorem keywordCount_eq_wordRunCount {keyword : String} (hne : keyword ≠ "")
    (hwords : ∀ c ∈ keyword.toList, Text.isWordChar c = true) (content : String) :
    keywordCount keyword content = wordRunCount content.toList keyword.toList := by
  have hnonempty : keyword.toList ≠ [] := by simpa using hne
  have hplaces := countP_range'_eq_places hnonempty hwords [] content.toList
  rw [wordRunCount, List.range_eq_range']
  exact (keywordCountFrom_eq_places hnonempty hwords none content.toList 0).trans
    ((Nat.zero_add _).trans hplaces.symm)

/-! ## Complexity -/

/-- **Complexity by lines, by keywords and by runs.** It exceeds one by what its lines exceed one by, if no keyword has
    a line feed; so it adds up over a line feed. The order of the keywords does not matter, and a keyword of word
    characters adds the number of maximal runs of word characters that are equal to it. -/
theorem complexity_by_lines_and_runs (p : Profile) :
    (∀ content, 1 ≤ p.complexity content) ∧
    ((∀ keyword ∈ p.keywords, '\n' ∉ keyword.toList) →
      (∀ content, p.complexity content - 1 =
        sumCounts ((Text.splitLines content).map fun line => p.complexity line - 1)) ∧
      ∀ a b, p.complexity (a ++ "\n" ++ b) - 1 = (p.complexity a - 1) + (p.complexity b - 1)) ∧
    (∀ keywords : List String, keywords.Perm p.keywords → ∀ content,
      { p with keywords := keywords }.complexity content = p.complexity content) ∧
    ∀ keyword : String, keyword ≠ "" → (∀ c ∈ keyword.toList, Text.isWordChar c = true) → ∀ content,
      { p with keywords := keyword :: p.keywords }.complexity content =
        p.complexity content + wordRunCount content.toList keyword.toList := by
  refine ⟨fun content => Nat.le_add_right 1 _, ?_, fun keywords hperm content => p.complexity_perm hperm content, ?_⟩
  · intro hkeywords
    exact ⟨p.complexity_splitLines hkeywords, p.complexity_append_newline hkeywords⟩
  · intro keyword hne hwords content
    rw [p.complexity_cons, keywordCount_eq_wordRunCount hne hwords]

/-- Keywords of letters and of symbols in a text of two lines, where the same letters also stand inside a longer
    word. -/
theorem complexity_by_lines_and_runs_two_lines :
    let p : Profile := { keywords := ["&&", "or"] }
    let content := "if a&&b\nif for"
    (∀ keyword ∈ p.keywords, '\n' ∉ keyword.toList) ∧
      p.complexity content - 1 = (p.complexity "if a&&b" - 1) + (p.complexity "if for" - 1) ∧
      ["or", "&&"].Perm p.keywords ∧ { p with keywords := ["or", "&&"] }.complexity content = p.complexity content ∧
      "if" ≠ "" ∧ (∀ c ∈ "if".toList, Text.isWordChar c = true) ∧
      { p with keywords := ["if", "&&", "or"] }.complexity content = p.complexity content + 2 := by
  intro p content
  obtain ⟨_, hlines, hperm, hruns⟩ := complexity_by_lines_and_runs p
  have hkeywords : ∀ keyword ∈ p.keywords, '\n' ∉ keyword.toList := by decide
  have hswap : ["or", "&&"].Perm p.keywords := .swap "&&" "or" []
  have hwords : ∀ c ∈ "if".toList, Text.isWordChar c = true := by simp [Text.isWordChar]
  have hcount : wordRunCount "if a&&b\nif for".toList "if".toList = 2 := by decide
  exact ⟨hkeywords, (hlines hkeywords).2 "if a&&b" "if for", hswap, hperm _ hswap content, by decide, hwords,
    hcount ▸ hruns "if" (by decide) hwords content⟩

end CodeCensus
