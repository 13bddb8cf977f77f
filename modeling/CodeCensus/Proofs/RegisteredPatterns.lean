import CodeCensus.Language.Tables
import CodeCensus.Proofs.LowerCase
import CodeCensus.Proofs.TreePlaces

/-!
# Patterns in the order of their registration

A language table keeps, for every suffix and every whole name, the language that was registered for it first.
So a file has the language that a reader of the whole history of registrations would give it: that of the first
pattern for its name, if the table matches names, or else that of the first pattern for its suffix. What is
registered later adds to the end of the history and takes nothing away from an earlier pattern.

## Contents
- `OrderedMap.get?_insertIfNew` — the first value under a key stays;
- `registeredPatterns`, `scanHistory` — the history of a table, and how it is read;
- `LanguageTable.Recalls` — what a table has kept of the patterns so far, with its step and run lemmas;
- `Path.suffixOf_eq_iff` — the suffix of a name;
- `classify_scans_history` — classification by the history.
-/

namespace CodeCensus

/-- A value that is stored under a new key only is found there if no other was found before. -/
theorem OrderedMap.get?_insertIfNew {κ α : Type} [DecidableEq κ] (m : OrderedMap κ α) (key other : κ) (value : α) :
    (m.insertIfNew key value).get? other = (m.get? other).or (if key = other then some value else none) := by
  unfold OrderedMap.insertIfNew OrderedMap.upsert OrderedMap.contains OrderedMap.get?
  split
  next hany =>
    have hsame : (m.entries.map fun e => if e.1 = key then (e.1, id e.2) else e) = m.entries := by
      simp
    rw [hsame]
    by_cases hkey : key = other
    · subst hkey
      obtain ⟨first, hfirst⟩ := Option.isSome_iff_exists.mp (List.find?_isSome.mpr (List.any_eq_true.mp hany))
      rw [hfirst]
      rfl
    · rw [if_neg hkey, Option.or_none]
  next =>
    -- a new key goes to the end, so the entries before it are asked first
    rw [List.find?_append, Option.map_or, List.find?_singleton]
    by_cases hkey : key = other
    · simp [hkey]
    · simp [hkey]

/-! ## Histories -/

/-- Every pattern that was ever registered, in order, with its language. -/
def registeredPatterns (history : List Registration) : List (String × Language) :=
  history.flatMap fun r => r.patterns.map fun pattern => (pattern, r.language)

/-- The language of the first pattern that passes the test. -/
def firstLanguage? (passes : String → Bool) (patterns : List (String × Language)) : Option Language :=
  (patterns.find? fun e => passes e.1).map (·.2)

/-- The language of the first pattern that is the name itself, whatever the case of its letters. -/
def languageOfName? (history : List Registration) (name : String) : Option Language :=
  firstLanguage? (fun pattern => Text.lower pattern = Text.lower name) (registeredPatterns history)

/-- The language of the first pattern with a dot in front that is the suffix of the name, whatever the case of its
    letters. -/
def languageOfSuffix? (history : List Registration) (name : String) : Option Language :=
  firstLanguage? (fun pattern => Text.startsWith pattern "." ∧ Text.lower pattern = Text.lower (Path.suffixOf name))
    (registeredPatterns history)

/-- The language that a reader of the history gives to a name. -/
def scanHistory (fallback : Language) (matchNames : Bool) (history : List Registration) (name : String) : Language :=
  ((if matchNames then languageOfName? history name else none).or (languageOfSuffix? history name)).getD fallback

theorem firstLanguage?_append (passes : String → Bool) (front back : List (String × Language)) :
    firstLanguage? passes (front ++ back) = (firstLanguage? passes front).or (firstLanguage? passes back) := by
  unfold firstLanguage?
  rw [List.find?_append, Option.map_or]

theorem firstLanguage?_singleton (passes : String → Bool) (pattern : String) (language : Language) :
    firstLanguage? passes [(pattern, language)] = if passes pattern then some language else none := by
  unfold firstLanguage?
  rw [List.find?_singleton]
  split <;> rfl

theorem registeredPatterns_append (history later : List Registration) :
    registeredPatterns (history ++ later) = registeredPatterns history ++ registeredPatterns later :=
  List.flatMap_append

/-- Later registrations come into play only where no earlier pattern was found. -/
theorem languageOfName?_append (history later : List Registration) (name : String) :
    languageOfName? (history ++ later) name = (languageOfName? history name).or (languageOfName? later name) := by
  unfold languageOfName?
  rw [registeredPatterns_append, firstLanguage?_append]

theorem languageOfSuffix?_append (history later : List Registration) (name : String) :
    languageOfSuffix? (history ++ later) name =
      (languageOfSuffix? history name).or (languageOfSuffix? later name) := by
  unfold languageOfSuffix?
  rw [registeredPatterns_append, firstLanguage?_append]

/-! ## What a table keeps -/

namespace LanguageTable

variable {t : LanguageTable} {fallback : Language} {matchNames : Bool} {patterns : List (String × Language)}

/-- The table has kept the first language for every suffix and, if it matches names, for every name. -/
structure Recalls (t : LanguageTable) (fallback : Language) (matchNames : Bool)
    (patterns : List (String × Language)) : Prop where
  fallback_eq : t.fallback = fallback
  matchNames_eq : t.matchNames = matchNames
  suffix_eq : ∀ key, t.suffixes.get? key =
    firstLanguage? (fun pattern => Text.startsWith pattern "." ∧ Text.lower pattern = key) patterns
  name_eq : matchNames = true → ∀ key, t.names.get? key =
    firstLanguage? (fun pattern => Text.lower pattern = key) patterns

theorem recalls_empty (fallback : Language) (matchNames : Bool) :
    (empty fallback matchNames).Recalls fallback matchNames [] :=
  ⟨rfl, rfl, fun _ => rfl, fun _ _ => rfl⟩

/-- One more pattern stands at the end of those that were registered before. -/
theorem Recalls.addPattern (h : t.Recalls fallback matchNames patterns) (language : Language) (pattern : String) :
    (addPattern language t pattern).Recalls fallback matchNames (patterns ++ [(pattern, language)]) := by
  refine ⟨h.fallback_eq, h.matchNames_eq, ?_, ?_⟩
  · intro key
    rw [firstLanguage?_append, firstLanguage?_singleton, ← h.suffix_eq key]
    unfold LanguageTable.addPattern
    dsimp only
    by_cases hdot : Text.startsWith pattern "." = true
    · rw [if_pos hdot, OrderedMap.get?_insertIfNew]
      simp [hdot]
    · rw [if_neg hdot]
      simp [hdot]
  · intro hnames key
    rw [firstLanguage?_append, firstLanguage?_singleton, ← h.name_eq hnames key]
    unfold LanguageTable.addPattern
    dsimp only
    rw [h.matchNames_eq, if_pos hnames, OrderedMap.get?_insertIfNew]
    simp

theorem Recalls.register (h : t.Recalls fallback matchNames patterns) (r : Registration) :
    (t.register r.language r.patterns r.profile).Recalls fallback matchNames
      (patterns ++ r.patterns.map fun pattern => (pattern, r.language)) := by
  have hentered : ∀ more : List String,
      (more.foldl (LanguageTable.addPattern r.language) t).Recalls fallback matchNames
        (patterns ++ more.map fun pattern => (pattern, r.language)) := by
    intro more
    induction more generalizing t patterns with
    | nil => simpa using h
    | cons pattern more ih =>
        have := ih (h.addPattern r.language pattern)
        simpa using this
  -- the lists of patterns and profiles play no part in classification
  obtain ⟨hfallback, hmatch, hsuffix, hname⟩ := hentered r.patterns
  exact ⟨hfallback, hmatch, hsuffix, hname⟩

/-- **A table recalls its whole history.** -/
theorem recalls_ofRegistrations (fallback : Language) (matchNames : Bool) (history : List Registration) :
    (ofRegistrations fallback matchNames history).Recalls fallback matchNames (registeredPatterns history) := by
  have hrun : ∀ (t : LanguageTable) (patterns : List (String × Language)), t.Recalls fallback matchNames patterns →
      (history.foldl (fun t r => t.register r.language r.patterns r.profile) t).Recalls fallback matchNames
        (patterns ++ registeredPatterns history) := by
    -- for every table to start from, since each registration leaves another one
    induction history with
    | nil =>
        intro t patterns h
        simpa [registeredPatterns] using h
    | cons r history ih =>
        intro t patterns h
        have hlater := ih _ _ (h.register r)
        rwa [List.append_assoc] at hlater
  exact hrun _ [] (recalls_empty fallback matchNames)

/-- Classification reads off what the table has kept. -/
theorem Recalls.classify_eq {history : List Registration}
    (h : t.Recalls fallback matchNames (registeredPatterns history)) (path : Path) :
    t.classify path = scanHistory fallback matchNames history path.name := by
  unfold LanguageTable.classify classifyName classifySuffix scanHistory languageOfName? languageOfSuffix?
  rw [h.matchNames_eq, h.suffix_eq, h.fallback_eq]
  cases matchNames with
  | false => rfl
  | true =>
      rw [if_pos rfl, if_pos rfl, h.name_eq rfl]
      cases firstLanguage? (fun pattern => Text.lower pattern = Text.lower path.name) (registeredPatterns history) with
      | none => rfl
      | some language => rfl

theorem ofRegistrations_classify (fallback : Language) (matchNames : Bool) (history : List Registration) (path : Path) :
    (ofRegistrations fallback matchNames history).classify path = scanHistory fallback matchNames history path.name :=
  (recalls_ofRegistrations fallback matchNames history).classify_eq path

end LanguageTable

/-! ## Names and suffixes -/

namespace Path

/-- The suffix starts with the last dot of the name, and there is something before that dot and after it. -/
def IsSuffix (name suffix : String) : Prop :=
  ∃ stem ext, name.toList = stem ++ '.' :: ext ∧ suffix.toList = '.' :: ext ∧ stem ≠ [] ∧ ext ≠ [] ∧ '.' ∉ ext

theorem takeWhile_reverse_of_no_dot {ext : List Char} (h : '.' ∉ ext) (front : List Char) :
    (ext.reverse ++ front).takeWhile (· ≠ '.') = ext.reverse ++ front.takeWhile (· ≠ '.') := by
  apply List.takeWhile_append_of_pos
  intro c hc
  rw [decide_eq_true_eq]
  rintro rfl
  exact h (List.mem_reverse.mp hc)

/-- The suffix of a name that is divided at its last dot. -/
theorem suffixOf_of_dot {name : String} {stem ext : List Char} (hname : name.toList = stem ++ '.' :: ext)
    (hext : '.' ∉ ext) :
    suffixOf name = if stem ≠ [] ∧ ext ≠ [] then String.ofList ('.' :: ext) else "" := by
  have htail : ((stem ++ '.' :: ext).reverse.takeWhile (· ≠ '.')).reverse = ext := by
    rw [List.reverse_append, List.reverse_cons, List.append_assoc, takeWhile_reverse_of_no_dot hext]
    simp
  have hdot : 1 < (stem ++ '.' :: ext).length - ext.length ↔ stem ≠ [] := by
    rw [← List.length_pos_iff, List.length_append, List.length_cons]
    omega
  unfold suffixOf
  dsimp only
  rw [hname, htail]
  simp only [hdot]

theorem suffixOf_of_no_dot {name : String} (h : '.' ∉ name.toList) : suffixOf name = "" := by
  have htail : (name.toList.reverse.takeWhile (· ≠ '.')).reverse = name.toList := by
    have htaken := takeWhile_reverse_of_no_dot h []
    rw [List.append_nil] at htaken
    rw [htaken]
    simp
  unfold suffixOf
  dsimp only
  rw [htail]
  simp

/-- **A name has at most one suffix, and that is the one that is found.** -/
theorem suffixOf_eq_iff {name suffix : String} : suffixOf name = suffix ∧ suffix ≠ "" ↔ IsSuffix name suffix := by
  constructor
  · rintro ⟨rfl, hne⟩
    by_cases hdot : '.' ∈ name.toList
    · -- the last dot is the first one from behind
      obtain ⟨front, back, hsplit, hfront⟩ := List.eq_append_cons_of_mem (List.mem_reverse.mpr hdot)
      have hname : name.toList = back.reverse ++ '.' :: front.reverse := by
        rw [← List.reverse_reverse name.toList, hsplit]
        simp
      have hext : '.' ∉ front.reverse := mt List.mem_reverse.mp hfront
      rw [suffixOf_of_dot hname hext] at hne ⊢
      by_cases hboth : back.reverse ≠ [] ∧ front.reverse ≠ []
      · rw [if_pos hboth]
        exact ⟨back.reverse, front.reverse, hname, String.toList_ofList, hboth.1, hboth.2, hext⟩
      · exact absurd (if_neg hboth) hne
    · exact absurd (suffixOf_of_no_dot hdot) hne
  · rintro ⟨stem, ext, hname, hsuffix, hstem, hext, hdot⟩
    have hlist : suffix = String.ofList ('.' :: ext) := by rw [← hsuffix, String.ofList_toList]
    refine ⟨?_, ?_⟩
    · rw [suffixOf_of_dot hname hdot, if_pos ⟨hstem, hext⟩, hlist]
    · rintro rfl
      simp at hsuffix

theorem betweenSlashes_of_plain {name : String} (h : PlainName name) : betweenSlashes name = [name] := by
  rw [betweenSlashes, List.splitOn_eq_singleton h.no_slash, List.map_singleton, String.ofList_toList]

theorem names_of_plain {name : String} (h : PlainName name) : names name = [name] := by
  rw [names, betweenSlashes_of_plain h]
  simp [h.ne_empty, h.ne_dot]

/-- A plain name behind a slash comes after the names that are there before. -/
theorem names_below (directory : String) {name : String} (h : PlainName name) :
    names (directory ++ "/" ++ name) = names directory ++ [name] := by
  have hsplit : betweenSlashes (directory ++ "/" ++ name) = betweenSlashes directory ++ betweenSlashes name := by
    have htext : (directory ++ "/" ++ name).toList = directory.toList ++ '/' :: name.toList := by simp
    unfold betweenSlashes
    rw [htext, List.splitOn_append_cons_self, List.map_append]
  have hname := names_of_plain h
  unfold names at hname ⊢
  rw [hsplit, List.filter_append, hname]

/-- **The last name of a path** is the one behind the last slash. -/
theorem name_parse_below (directory : String) {name : String} (h : PlainName name) :
    (parse (directory ++ "/" ++ name)).name = name := by
  simp [parse, Path.name, names_below directory h]

theorem name_parse_of_plain {name : String} (h : PlainName name) : (parse name).name = name := by
  simp [parse, Path.name, names_of_plain h]

end Path

/-! ## Classification -/

/-- **Classification by the history.** A table gives each path the language that a reader of all registrations in
    order gives to its last name: that of the first pattern for the name, if names are matched, or else that of the
    first pattern for its suffix, or else the fallback. The directories in a path do not matter, and later
    registrations leave a name alone that was matched before in the same way. -/
theorem classify_scans_history (fallback : Language) (matchNames : Bool) (history : List Registration) :
    (∀ path : Path, (LanguageTable.ofRegistrations fallback matchNames history).classify path =
      scanHistory fallback matchNames history path.name) ∧
    (∀ name suffix, Path.suffixOf name = suffix ∧ suffix ≠ "" ↔ Path.IsSuffix name suffix) ∧
    (∀ directory name, PlainName name →
      (LanguageTable.ofRegistrations fallback matchNames history).classify (.parse (directory ++ "/" ++ name)) =
        (LanguageTable.ofRegistrations fallback matchNames history).classify (.parse name)) ∧
    ∀ (later : List Registration) (path : Path) (language : Language),
      (matchNames = true → languageOfName? history path.name = some language →
        (LanguageTable.ofRegistrations fallback matchNames (history ++ later)).classify path = language) ∧
      ((matchNames = true → languageOfName? (history ++ later) path.name = none) →
        languageOfSuffix? history path.name = some language →
        (LanguageTable.ofRegistrations fallback matchNames (history ++ later)).classify path = language) := by
  have hscan := LanguageTable.ofRegistrations_classify fallback matchNames history
  refine ⟨hscan, fun name suffix => Path.suffixOf_eq_iff, ?_, ?_⟩
  · intro directory name hname
    rw [hscan, hscan, Path.name_parse_below directory hname, Path.name_parse_of_plain hname]
  · intro later path language
    rw [LanguageTable.ofRegistrations_classify]
    constructor
    · intro hmatch hfirst
      unfold scanHistory
      rw [if_pos hmatch, languageOfName?_append, hfirst]
      rfl
    · intro hnone hfirst
      have hname : (if matchNames = true then languageOfName? (history ++ later) path.name else none) = none := by
        split
        next hmatch => exact hnone hmatch
        next => rfl
      unfold scanHistory
      rw [hname, Option.none_or, languageOfSuffix?_append, hfirst]
      rfl

/-- Patterns in different case, registered again for other languages: by name, and by suffix where names are not
    matched. -/
theorem classify_scans_history_mixed_case :
    let history : List Registration := [⟨.makefile, ["Makefile", ".mk"], none⟩, ⟨.text, ["MAKEFILE", ".MK"], none⟩]
    let later : List Registration := [⟨.config, ["makefile", ".mk"], none⟩]
    let path : Path := .parse "src/makefile"
    let other : Path := .parse "src/rules.d.MK"
    let table := LanguageTable.ofRegistrations .other true history
    (PlainName "makefile" ∧ table.classify (.parse ("src" ++ "/" ++ "makefile")) = table.classify (.parse "makefile")) ∧
      (languageOfName? history path.name = some .makefile ∧
        (LanguageTable.ofRegistrations .other true (history ++ later)).classify path = .makefile) ∧
      languageOfSuffix? history other.name = some .makefile ∧
        (LanguageTable.ofRegistrations .other false (history ++ later)).classify other = .makefile := by
  intro history later path other table
  have hplain : PlainName "makefile" := by decide
  have hcase : Text.lower "Makefile" = Text.lower "makefile" :=
    congrArg String.ofList (Text.lowerChars_congr (by repeat' constructor))
  have hsuffixCase : Text.lower ".mk" = Text.lower ".MK" :=
    congrArg String.ofList (Text.lowerChars_congr (by repeat' constructor))
  have hname : languageOfName? history path.name = some .makefile := by
    have : path.name = "makefile" := by decide
    simp [languageOfName?, firstLanguage?, registeredPatterns, history, this, hcase]
  have hsuffix : languageOfSuffix? history other.name = some .makefile := by
    have hdotted : Path.suffixOf other.name = ".MK" := by decide
    have hundotted : Text.startsWith "Makefile" "." = false := by decide
    have hstart : Text.startsWith ".mk" "." = true := by decide
    simp [languageOfSuffix?, firstLanguage?, registeredPatterns, history, hdotted, hundotted, hstart, hsuffixCase]
  obtain ⟨_, _, hdirectory, hlater⟩ := classify_scans_history .other true history
  obtain ⟨_, _, _, hlaterSuffix⟩ := classify_scans_history .other false history
  exact ⟨⟨hplain, hdirectory "src" "makefile" hplain⟩, ⟨hname, (hlater later path _).1 rfl hname⟩, hsuffix,
    (hlaterSuffix later other _).2 (fun h => absurd h Bool.false_ne_true) hsuffix⟩

end CodeCensus
