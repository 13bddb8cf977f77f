import CodeCensus.Proofs.LoadedKeys
import CodeCensus.Proofs.ThresholdEntries
import CodeCensus.Proofs.TreePlaces
import CodeCensus.Settings.Override
import Mathlib.Data.List.Forall2

/-!
# Layers of options

The options of a run come in three layers: what is chosen on the command line, what the settings file sets,
and the defaults. Each option has its value from the first layer that has one. A threshold may be assigned
by several items, of which the last one counts, and in the file it stands in the section of its analysis.

## Contents
- `Assigns`, `parseItem_eq_ok` — which items assign which values to which keys;
- `lastAssigned?`, `parseOverrides_eq_ok` — what a list of items assigns;
- `Value.setting?` — what a settings file sets;
- `overlaySections_lookup?`, `LaidOver`, `FileSystem.loadSettings_laidOver` — the sections of a file over the
  defaults;
- `FileSystem.loadSettings_sections`, `flattenThresholds_eq` — all sections of a loaded document;
- `buildOptions_eq_ok`, `lookup?_thresholds` — the options of a run, from sections and items;
- `RunOptions.Layered`, `options_layered` — where the options of a run come from.
-/

namespace CodeCensus

/-! ## Items -/

/-- The value that a text writes; a blank one writes nothing. -/
def writtenValue (raw : String) : Except Yaml.Fault Value :=
  if (Text.trim raw).isEmpty then .ok .null else Yaml.loadText raw

/-- The item is a key, an equals sign and the text of a value. The key counts without the blanks around it
    and is not empty. -/
def Assigns (item : Option String) (assigned : String × Value) : Prop :=
  ∃ key raw, item = some (String.ofList (key ++ '=' :: raw)) ∧ '=' ∉ key ∧
    assigned.1 = String.ofList (Text.trimChars key) ∧ assigned.1 ≠ "" ∧
    writtenValue (String.ofList raw) = .ok assigned.2

/-- An item is split at its first equals sign. -/
theorem splitOverride_eq_ok {item : String} {split : String × String} :
    splitOverride item = .ok split ↔
      ∃ key raw, item = String.ofList (key ++ '=' :: raw) ∧ '=' ∉ key ∧
        split.1 = String.ofList (Text.trimChars key) ∧ split.1 ≠ "" ∧ split.2 = String.ofList raw := by
  constructor
  · intro h
    unfold splitOverride at h
    dsimp only at h
    split at h
    next => cases h
    next c raw hdrop =>
      split at h
      next => cases h
      next hkey =>
        cases h
        obtain rfl : c = '=' := by
          have hhead := List.head?_dropWhile_not (fun c => decide (c ≠ '=')) item.toList
          rw [hdrop] at hhead
          simpa using hhead
        refine ⟨item.toList.takeWhile (· ≠ '='), raw, ?_, ?_, rfl, ?_, rfl⟩
        · rw [← hdrop, List.takeWhile_append_dropWhile, String.ofList_toList]
        · intro hmem
          have hother := List.all_eq_true.mp List.all_takeWhile '=' hmem
          exact of_decide_eq_true hother rfl
        · intro hempty
          exact hkey (by simpa using hempty)
  · rintro ⟨key, raw, rfl, hkey, hfirst, hne, hsecond⟩
    have hbefore : ∀ c ∈ key, decide (c ≠ '=') = true := by
      intro c hc
      exact decide_eq_true fun heq => hkey (heq ▸ hc)
    have htake : (key ++ '=' :: raw).takeWhile (· ≠ '=') = key := by
      rw [List.takeWhile_append_of_pos hbefore]
      simp
    have hdrop : (key ++ '=' :: raw).dropWhile (· ≠ '=') = '=' :: raw := by
      rw [List.dropWhile_append_of_pos hbefore]
      simp
    have hnonempty : ¬ (Text.trimChars key).isEmpty = true := by
      intro hempty
      refine hne (hfirst.trans ?_)
      rw [List.isEmpty_iff.mp hempty]
    unfold splitOverride
    rw [String.toList_ofList]
    simp only [htake, hdrop, hnonempty, Bool.false_eq_true, if_false]
    rw [← hfirst, ← hsecond]

theorem parseOverride_eq_ok {item name : String} {value : Value} :
    parseOverride item = .ok (name, value) ↔
      ∃ raw, splitOverride item = .ok (name, raw) ∧ writtenValue raw = .ok value := by
  unfold parseOverride writtenValue
  constructor
  · intro h
    obtain ⟨⟨key, raw⟩, hsplit, h⟩ := Except.bind_eq_ok.mp h
    dsimp only at h
    split at h
    next hblank =>
      cases h
      exact ⟨raw, hsplit, by rw [if_pos hblank]⟩
    next hblank =>
      split at h
      next hload =>
        cases h
        exact ⟨raw, hsplit, by rw [if_neg hblank, hload]⟩
      next => cases h
  · rintro ⟨raw, hsplit, hvalue⟩
    refine Except.bind_eq_ok.mpr ⟨(name, raw), hsplit, ?_⟩
    dsimp only
    split at hvalue
    next hblank =>
      cases hvalue
      rw [if_pos hblank]
      rfl
    next hblank =>
      rw [if_neg hblank, hvalue]
      rfl

/-- The items that can be read are those that assign a value. -/
theorem parseItem_eq_ok {item : Option String} {assigned : String × Value} :
    parseItem item = .ok assigned ↔ Assigns item assigned := by
  obtain ⟨name, value⟩ := assigned
  cases item with
  | none => simp [parseItem, Assigns]
  | some item =>
      unfold parseItem Assigns
      rw [parseOverride_eq_ok]
      constructor
      · rintro ⟨raw, hsplit, hvalue⟩
        obtain ⟨key, chars, rfl, hkey, hname, hne, rfl⟩ := splitOverride_eq_ok.mp hsplit
        exact ⟨key, chars, rfl, hkey, hname, hne, hvalue⟩
      · rintro ⟨key, chars, hitem, hkey, hname, hne, hvalue⟩
        exact ⟨String.ofList chars,
          splitOverride_eq_ok.mpr ⟨key, chars, Option.some.inj hitem, hkey, hname, hne, rfl⟩, hvalue⟩

/-- The value that the last of some assignments gives to a name. -/
def lastAssigned? (assigned : List (String × Value)) (name : String) : Option Value :=
  (assigned.reverse.find? fun p => p.1 = name).map (·.2)

/-- Items that each assign a value are read into a map that has the last values. -/
theorem parseOverrides_eq_ok {items : List (Option String)} {assigned : List (String × Value)}
    (h : List.Forall₂ Assigns items assigned) :
    ∃ overrides, parseOverrides items = .ok overrides ∧ Value.TextsApart overrides ∧
      ∀ name, Value.lookup? overrides (.text name) = lastAssigned? assigned name := by
  have hpairs : items.mapM parseItem = .ok assigned :=
    mapM_eq_ok_iff.mpr (h.imp fun _ _ hitem => parseItem_eq_ok.mpr hitem)
  refine ⟨Value.merge [] (assigned.map fun p => (.text p.1, p.2)), ?_, ?_, ?_⟩
  · rw [parseOverrides, hpairs]
    rfl
  · exact Value.textsApart_merge .nil _
  · intro name
    have hsame : (fun e : Value × Value => e.1.sameKey (.text name)) ∘ (fun p => (Value.text p.1, p.2)) =
        fun p : String × Value => decide (p.1 = name) := by
      funext p
      simp [Value.sameKey]
    rw [Value.lookup?_merge, ← List.map_reverse]
    simp only [Value.lookup?, lastAssigned?, List.find?_map, List.find?_nil, Option.map_none, Option.or_none,
      Option.map_map, hsame]
    rfl

/-! ## Settings files -/

/-- What a settings file sets under a name in one of its sections. -/
def Value.setting? (given : Value) (part name : String) : Option Value :=
  (given.get? part).bind fun entries => entries.get? name

theorem Value.get?_eq_lookup? (v : Value) (name : String) :
    v.get? name = lookup? ((mapEntries? v).getD []) (.text name) := by
  cases v <;> rfl

/-- **A section over that of the document.** Each section that is given is merged into the one that was
    there, and those that are not given stay. -/
theorem overlaySections_lookup? {file name : String} {sections document result base : List (Value × Value)}
    (h : (overlaySections file sections document).2 = .ok result) (hapart : Value.TextsApart sections)
    (hbase : Value.lookup? document (.text name) = some (.map base)) :
    Value.lookup? result (.text name) =
      some (.map (Value.merge base (((Value.lookup? sections (.text name)).bind mapEntries?).getD []))) := by
  induction sections generalizing document base with
  | nil =>
      cases h
      exact hbase
  | cons e rest ih =>
      obtain ⟨key, given⟩ := e
      obtain ⟨hfirst, hrest⟩ := List.pairwise_cons.mp hapart
      rw [Value.lookup?_cons]
      unfold overlaySections at h
      cases hlookup : Value.lookup? document key with
      | none =>
          -- a section that the document does not have is not the one looked for
          have hkey : ¬ key.sameKey (.text name) = true := by
            intro hsame
            rw [Value.sameKey_text.mp hsame, hbase] at hlookup
            cases hlookup
          rw [if_neg hkey]
          simp only [hlookup] at h
          exact ih h hrest hbase
      | some under =>
          simp only [hlookup] at h
          cases hentries : mapEntries? given with
          | none => simp [hentries] at h
          | some entries =>
              simp only [hentries] at h
              by_cases hkey : key.sameKey (.text name) = true
              · obtain rfl := Value.sameKey_text.mp hkey
                obtain rfl : under = .map base := Option.some.inj (hlookup.symm.trans hbase)
                -- no later section has this name, so that nothing is merged over it again
                have habsent : Value.lookup? rest (.text name) = none :=
                  Value.lookup?_eq_none.mpr fun e he => hfirst e he name rfl
                have hmerged := ih h hrest (by rw [Value.lookup?_store, if_pos hkey])
                rw [hmerged, habsent, if_pos hkey, Option.bind_some, hentries]
                rfl
              · rw [if_neg hkey]
                exact ih h hrest (by rw [Value.lookup?_store, if_neg hkey]; exact hbase)

/-- A settings file that can be used is a map of sections, or has nothing to say. -/
theorem given_eq_map {given : Value} {sections : List (Value × Value)}
    (h : mapEntries? (if given.truthy then given else .map []) = some sections) :
    given = .map sections ∨ sections = [] ∧ ∀ name, given.get? name = none := by
  split at h
  next =>
    cases given <;> cases h
    exact .inl rfl
  next hfalse =>
    cases h
    refine .inr ⟨rfl, fun name => ?_⟩
    cases given with
    | map entries =>
        obtain rfl : entries = [] := by simpa [Value.truthy] using hfalse
        rfl
    | _ => rfl

theorem overlayDocument_eq_ok {file : String} {given document : Value}
    (h : (overlayDocument file given).2 = .ok document) :
    ∃ sections result, mapEntries? (if given.truthy then given else .map []) = some sections ∧
      (overlaySections file sections defaultSections).2 = .ok result ∧ document = .map result := by
  unfold overlayDocument at h
  dsimp only at h
  split at h
  next => cases h
  next sections hsections =>
    refine ⟨sections, ?_⟩
    split at h
    next result hoverlay =>
      cases h
      exact ⟨result, hsections, by rw [hoverlay], rfl⟩
    next => cases h

/-- The section is there, with the given values in it and those of the base under them. -/
structure SectionOver (given : Value) (part : String) (base sections entries : List (Value × Value)) :
    Prop where
  found : Value.lookup? sections (.text part) = some (.map entries)
  apart : Value.TextsApart entries
  lookup : ∀ name, Value.lookup? entries (.text name) =
    (given.setting? part name).or (Value.lookup? base (.text name))

theorem SectionOver.sectionOf_eq {given : Value} {part : String}
    {base sections entries : List (Value × Value)} (h : SectionOver given part base sections entries) :
    sectionOf (.map sections) part = .ok (.map entries) := by
  show Except.ok ((Value.lookup? sections (.text part)).getD (.map [])) = _
  rw [h.found]
  rfl

theorem SectionOver.sectionEntries_eq {given : Value} {part : String}
    {base sections entries : List (Value × Value)} (h : SectionOver given part base sections entries) :
    sectionEntries (.map sections) part = .ok entries := by
  unfold sectionEntries
  rw [h.sectionOf_eq]
  rfl

/-- The document is the given one over the defaults. -/
def LaidOver (given document : Value) : Prop :=
  ∃ sections, document = .map sections ∧
    ∀ part base, Value.lookup? defaultSections (.text part) = some (.map base) → Value.TextsApart base →
      ∃ entries, SectionOver given part base sections entries

theorem overlayDocument_laidOver {file : String} {given document : Value} (hgiven : given.SectionsApart)
    (h : (overlayDocument file given).2 = .ok document) : LaidOver given document := by
  obtain ⟨sections, result, hsections, hoverlay, rfl⟩ := overlayDocument_eq_ok h
  have hget : ∀ part, given.get? part = Value.lookup? sections (.text part) := by
    intro part
    rcases given_eq_map hsections with rfl | ⟨rfl, hnone⟩
    · rfl
    · exact hnone part
  have hapart : Value.TextsApart sections ∧
      ∀ e ∈ sections, ∀ entries, e.2 = .map entries → Value.TextsApart entries := by
    rcases given_eq_map hsections with rfl | ⟨rfl, _⟩
    · exact hgiven sections rfl
    · exact ⟨.nil, by simp⟩
  refine ⟨result, rfl, ?_⟩
  intro part base hbase hbaseApart
  have hresult := overlaySections_lookup? hoverlay hapart.1 hbase
  refine ⟨_, hresult, Value.textsApart_merge hbaseApart _, ?_⟩
  intro name
  unfold Value.setting?
  rw [hget part]
  cases hpart : Value.lookup? sections (.text part) with
  | none => rfl
  | some v =>
      have hlater : Value.TextsApart ((mapEntries? v).getD []) := by
        cases v with
        | map entries => exact hapart.2 _ ((Value.lookup?_eq_some hapart.1).mp hpart) entries rfl
        | _ => exact .nil
      rw [Option.bind_some, Value.lookup?_merge_apart _ hlater, Option.bind_some, Value.get?_eq_lookup?]

theorem FileSystem.loadSettings_laidOver {fs : FileSystem} {path : Path} {given document : Value}
    (hread : fs.readDocument path = .ok given) (hload : (fs.loadSettings path).2 = .ok document) :
    LaidOver given document := by
  unfold FileSystem.loadSettings at hload
  simp only [hread] at hload
  split at hload
  next result hoverlay =>
    cases hload
    exact overlayDocument_laidOver (FileSystem.readDocument_sectionsApart hread) (by rw [hoverlay])
  next => cases hload

/-! ## Defaults -/

/-- The section of a settings file that a threshold belongs to. -/
def ThresholdKey.part (key : ThresholdKey) : String :=
  if key ∈ ThresholdKey.duplicates then "duplicates" else "metrics"

/-- The default entries of some thresholds. -/
def defaultEntries (keys : List ThresholdKey) : List (Value × Value) :=
  keys.map fun key => (.text key.name, key.default.toValue)

theorem lookup?_defaultEntries (keys : List ThresholdKey) (key : ThresholdKey) :
    Value.lookup? (defaultEntries keys) (.text key.name) =
      if key ∈ keys then some key.default.toValue else none :=
  Thresholds.lookup?_entries .defaults keys key

theorem textsApart_defaultEntries {keys : List ThresholdKey} (h : keys.Nodup) :
    Value.TextsApart (defaultEntries keys) :=
  Thresholds.textsApart_entries .defaults h

/-- The default entries about a run. -/
def defaultRun : List (Value × Value) :=
  [(.text "workers", .null), (.text "timeout", .null), (.text "pruneCandidates", .bool true)]

theorem thresholdSection_map (keys : List ThresholdKey) :
    thresholdSection (keys.map fun k => (k.name, k.default)) = .map (defaultEntries keys) := by
  simp [thresholdSection, defaultEntries, Value.ofFields, Function.comp_def]

/-- The default document sets each threshold to the default that it has without a document. -/
theorem defaultSections_eq : defaultSections =
    [(.text "duplicates", .map (defaultEntries ThresholdKey.duplicates)),
      (.text "metrics", .map (defaultEntries ThresholdKey.metrics)), (.text "run", .map defaultRun)] := by
  rw [← thresholdSection_map, ← thresholdSection_map, ← duplicateTable_eq, ← metricsTable_eq]
  rfl

theorem lookup?_defaultSections :
    Value.lookup? defaultSections (.text "duplicates") =
        some (.map (defaultEntries ThresholdKey.duplicates)) ∧
      Value.lookup? defaultSections (.text "metrics") = some (.map (defaultEntries ThresholdKey.metrics)) ∧
      Value.lookup? defaultSections (.text "run") = some (.map defaultRun) := by
  simp [defaultSections_eq, Value.lookup?_cons, Value.sameKey]

theorem lookup?_defaultRun :
    Value.lookup? defaultRun (.text "workers") = some .null ∧
      Value.lookup? defaultRun (.text "timeout") = some .null ∧
      Value.lookup? defaultRun (.text "pruneCandidates") = some (.bool true) := by
  simp [defaultRun, Value.lookup?_cons, Value.sameKey]

theorem textsApart_defaultRun : Value.TextsApart defaultRun := by
  simp [defaultRun, Value.TextsApart]

theorem ThresholdKey.mem_metrics {key : ThresholdKey} :
    key ∈ ThresholdKey.metrics ↔ key ∉ ThresholdKey.duplicates := by
  cases key <;> decide

/-- The sections of a document that was loaded, each with the given values over the defaults. -/
theorem FileSystem.loadSettings_sections {fs : FileSystem} {path : Path} {document : Value}
    (hload : (fs.loadSettings path).2 = .ok document) :
    ∃ given sections duplicates metrics run, fs.readDocument path = .ok given ∧ document = .map sections ∧
      SectionOver given "duplicates" (defaultEntries ThresholdKey.duplicates) sections duplicates ∧
      SectionOver given "metrics" (defaultEntries ThresholdKey.metrics) sections metrics ∧
      SectionOver given "run" defaultRun sections run := by
  obtain ⟨given, hread⟩ : ∃ given, fs.readDocument path = .ok given := by
    unfold FileSystem.loadSettings at hload
    cases hread : fs.readDocument path with
    | error e => simp [hread] at hload
    | ok given => exact ⟨given, rfl⟩
  obtain ⟨sections, hdocument, hlaid⟩ := FileSystem.loadSettings_laidOver hread hload
  obtain ⟨hdefaults, hdefaults', hdefaults''⟩ := lookup?_defaultSections
  obtain ⟨duplicates, hduplicates⟩ := hlaid _ _ hdefaults (textsApart_defaultEntries (by decide))
  obtain ⟨metrics, hmetrics⟩ := hlaid _ _ hdefaults' (textsApart_defaultEntries (by decide))
  obtain ⟨run, hrun⟩ := hlaid _ _ hdefaults'' textsApart_defaultRun
  exact ⟨given, sections, duplicates, metrics, run, hread, hdocument, hduplicates, hmetrics, hrun⟩

theorem flattenThresholds_eq {given : Value} {sections duplicates metrics base base' : List (Value × Value)}
    (hduplicates : SectionOver given "duplicates" base sections duplicates)
    (hmetrics : SectionOver given "metrics" base' sections metrics) :
    flattenThresholds (.map sections) = .ok (Value.merge duplicates metrics) := by
  unfold flattenThresholds
  rw [hduplicates.sectionEntries_eq, hmetrics.sectionEntries_eq]
  rfl

/-! ## Options -/

/-- A choice that was made. -/
def madeChoice? : Value → Option Value
  | .null => none
  | choice => some choice

/-- What only a search for duplicates has. -/
def Command.forDuplicates {α : Type} : Command → α → Option α
  | .duplicates, x => some x
  | .metrics, _ => none

theorem chosen_map (choice : Value) (run : List (Value × Value)) (name : String) :
    chosen choice (.map run) name =
      .ok (((madeChoice? choice).or (Value.lookup? run (.text name))).getD .null) := by
  cases choice <;> rfl

/-- The options of a run from the sections of a document and the entries that items set. -/
theorem buildOptions_eq_ok {command : Command} {choices : RunChoices} {document : Value}
    {run thresholds overrides : List (Value × Value)} (hrun : sectionOf document "run" = .ok (.map run))
    (hthresholds : flattenThresholds document = .ok thresholds)
    (hoverrides : parseOverrides choices.overrides = .ok overrides) :
    buildOptions command choices document =
      .ok { thresholds := Value.merge thresholds overrides
            workers := ((madeChoice? choices.workers).or (Value.lookup? run (.text "workers"))).getD .null
            timeout := command.forDuplicates
              (((madeChoice? choices.timeout).or (Value.lookup? run (.text "timeout"))).getD .null)
            prune := command.forDuplicates
              (if choices.noPrune then .bool false
                else (Value.lookup? run (.text "pruneCandidates")).getD (.bool true)) } := by
  unfold buildOptions
  simp only [hrun, hthresholds, hoverrides, Except.mapError, bind, Except.bind, chosen_map, pure, Except.pure]
  cases command with
  | metrics => rfl
  | duplicates => cases choices.noPrune <;> rfl

/-- Each option has its value from the command line, or else from the settings file, or else from the
    defaults. Thresholds are assigned by items and stand in the sections of their analyses. -/
structure RunOptions.Layered (command : Command) (choices : RunChoices)
    (assigned : List (String × Value)) (given : Value) (options : RunOptions) : Prop where
  thresholds : ∀ key : ThresholdKey, Value.lookup? options.thresholds (.text key.name) =
    some (((lastAssigned? assigned key.name).or (given.setting? key.part key.name)).getD
      key.default.toValue)
  thresholds_apart : Value.TextsApart options.thresholds
  workers : options.workers =
    ((madeChoice? choices.workers).or (given.setting? "run" "workers")).getD .null
  timeout : options.timeout = command.forDuplicates
    (((madeChoice? choices.timeout).or (given.setting? "run" "timeout")).getD .null)
  prune : options.prune = command.forDuplicates
    (if choices.noPrune then .bool false
      else (given.setting? "run" "pruneCandidates").getD (.bool true))

theorem or_or_some {α : Type} (first second : Option α) (third : α) :
    first.or (second.or (some third)) = some ((first.or second).getD third) := by
  cases first <;> cases second <;> rfl

/-- The thresholds of both analyses in one map, under those that are assigned. -/
theorem lookup?_thresholds {given : Value} {sections duplicates metrics overrides : List (Value × Value)}
    {assigned : List (String × Value)}
    (hduplicates : SectionOver given "duplicates" (defaultEntries ThresholdKey.duplicates) sections duplicates)
    (hmetrics : SectionOver given "metrics" (defaultEntries ThresholdKey.metrics) sections metrics)
    (hown : ∀ key ∈ ThresholdKey.duplicates, given.setting? "metrics" key.name = none)
    (hapart : Value.TextsApart overrides)
    (hoverrides : ∀ name, Value.lookup? overrides (.text name) = lastAssigned? assigned name)
    (key : ThresholdKey) :
    Value.lookup? (Value.merge (Value.merge duplicates metrics) overrides) (.text key.name) =
      some (((lastAssigned? assigned key.name).or (given.setting? key.part key.name)).getD
        key.default.toValue) := by
  rw [Value.lookup?_merge_apart _ hapart, hoverrides, Value.lookup?_merge_apart _ hmetrics.apart,
    hmetrics.lookup, hduplicates.lookup, lookup?_defaultEntries, lookup?_defaultEntries]
  unfold ThresholdKey.part
  by_cases hkey : key ∈ ThresholdKey.duplicates
  · have hnot : key ∉ ThresholdKey.metrics := fun h => ThresholdKey.mem_metrics.mp h hkey
    rw [if_pos hkey, if_pos hkey, if_neg hnot, hown key hkey, Option.none_or, Option.none_or, or_or_some]
  · rw [if_neg hkey, if_neg hkey, if_pos (ThresholdKey.mem_metrics.mpr hkey), Option.or_assoc, Option.some_or,
      or_or_some]

/-- **Where the options of a run come from.** With a settings file that can be used, in which no threshold of
    the duplicate search stands among the metrics, and with items that each assign a value, there are options,
    and each of them has its value from the first layer that has one. -/
theorem options_layered (fs : FileSystem) (path : Path) (command : Command) (choices : RunChoices)
    {given document : Value} {assigned : List (String × Value)}
    (hread : fs.readDocument path = .ok given) (hload : (fs.loadSettings path).2 = .ok document)
    (hown : ∀ key ∈ ThresholdKey.duplicates, given.setting? "metrics" key.name = none)
    (hitems : List.Forall₂ Assigns choices.overrides assigned) :
    ∃ options, buildOptions command choices document = .ok options ∧
      options.Layered command choices assigned given := by
  obtain ⟨given', sections, duplicates, metrics, run, hread', rfl, hduplicates, hmetrics, hrun⟩ :=
    FileSystem.loadSettings_sections hload
  obtain rfl : given = given' := Except.ok.inj (hread.symm.trans hread')
  obtain ⟨overrides, hoverrides, hapart, hlast⟩ := parseOverrides_eq_ok hitems
  obtain ⟨hworkers, htimeout, hprune⟩ := lookup?_defaultRun
  have hflat := flattenThresholds_eq hduplicates hmetrics
  refine ⟨_, buildOptions_eq_ok hrun.sectionOf_eq hflat hoverrides, ?_, ?_, ?_, ?_, ?_⟩
  · exact lookup?_thresholds hduplicates hmetrics hown hapart hlast
  · exact Value.textsApart_merge (Value.textsApart_merge hduplicates.apart _) _
  · simp only [hrun.lookup, hworkers, or_or_some, Option.getD_some]
  · simp only [hrun.lookup, htimeout, or_or_some, Option.getD_some]
  · have hgetD : (Value.lookup? run (.text "pruneCandidates")).getD (.bool true) =
        (given.setting? "run" "pruneCandidates").getD (.bool true) := by
      rw [hrun.lookup, hprune]
      cases given.setting? "run" "pruneCandidates" <;> rfl
    simp only [hgetD]

/-! ## Files with one setting -/

/-- A settings file that sets one threshold, in one of its sections. -/
def settingFile (part value : String) : String := part ++ ":\n  highComplexity: " ++ value ++ "\n"

/-- A disk with that file. -/
def settingDisk (part value : String) : FileSystem := .withFile "s.yml" (settingFile part value).toUTF8

/-- The nodes of that file. -/
def settingGraph (part value : String) : Yaml.Graph :=
  #[⟨Yaml.coreTag "map", .mapping [(1, 2)]⟩, ⟨Yaml.coreTag "str", .scalar part⟩,
    ⟨Yaml.coreTag "map", .mapping [(3, 4)]⟩, ⟨Yaml.coreTag "str", .scalar "highComplexity"⟩,
    ⟨Yaml.coreTag "int", .scalar value⟩]

/-- What the file says. -/
def settingGiven (part : String) (n : Int) : Value :=
  .map [(.text part, .map [(.text "highComplexity", .int n)])]

/-- The sections and values that the files below have, each with the integer that the value is read as. -/
def sampleSettings : List (String × String × Int) := [("metrics", "7", 7), ("duplicates", "3", 3)]

section Sample

variable {part value : String} {n : Int}

theorem scanTokens_settingFile : ∀ x ∈ sampleSettings,
    Yaml.limitDepth 0
        (Yaml.scanTokens (.ofPieces (Text.decodePieces (settingFile x.1 x.2.1).toUTF8.toList))) =
      [.blockMappingStart, .key, .scalar true x.1, .value, .blockMappingStart, .key,
        .scalar true "highComplexity", .value, .scalar true x.2.1, .blockEnd, .blockEnd, .streamEnd] := by
  decide +kernel

/-- The tokens, the nodes and the value of a file are computed one after the other: a proof by computation of all
    at once does not end. -/
theorem loadStream_settingFile (h : (part, value, n) ∈ sampleSettings) :
    Yaml.loadStream 2 (.ofPieces (Text.decodePieces (settingFile part value).toUTF8.toList)) =
      .ok (settingGiven part n) := by
  have htokens := scanTokens_settingFile _ h
  unfold Yaml.loadStream
  rw [htokens]
  refine Except.bind_eq_ok.mpr ⟨some (settingGraph part value, 0), ?_, ?_⟩
  · simp only [sampleSettings, List.mem_cons, Prod.mk.injEq, List.not_mem_nil, or_false] at h
    rcases h with ⟨rfl, rfl, rfl⟩ | ⟨rfl, rfl, rfl⟩ <;> rfl
  · simp only [sampleSettings, List.mem_cons, Prod.mk.injEq, List.not_mem_nil, or_false] at h
    rcases h with ⟨rfl, rfl, rfl⟩ | ⟨rfl, rfl, rfl⟩ <;> rfl

theorem settingDisk_readDocument (h : (part, value, n) ∈ sampleSettings) :
    (settingDisk part value).readDocument ⟨.root, ["s.yml"]⟩ = .ok (settingGiven part n) := by
  have hlocate : (settingDisk part value).locate ⟨.root, ["s.yml"]⟩ =
      .ok (["s.yml"], .file (settingFile part value).toUTF8 0) :=
    FileSystem.withFile_locate _ (by decide)
  unfold FileSystem.readDocument
  rw [FileSystem.readBytes_of_locate hlocate]
  dsimp only
  rw [loadStream_settingFile h]
  rfl

/-- A file with one section of the default document is loaded without a notice. -/
theorem settingDisk_loadSettings (h : (part, value, n) ∈ sampleSettings) :
    ∃ document, (settingDisk part value).loadSettings ⟨.root, ["s.yml"]⟩ = ([], .ok document) := by
  obtain ⟨base, hbase⟩ : ∃ base, Value.lookup? defaultSections (.text part) = some base := by
    simp only [sampleSettings, List.mem_cons, Prod.mk.injEq, List.not_mem_nil, or_false] at h
    rcases h with ⟨rfl, _⟩ | ⟨rfl, _⟩
    · exact ⟨_, lookup?_defaultSections.2.1⟩
    · exact ⟨_, lookup?_defaultSections.1⟩
  have htruthy : (settingGiven part n).truthy = true := rfl
  unfold FileSystem.loadSettings
  rw [settingDisk_readDocument h]
  simp only [overlayDocument, htruthy, if_true]
  simp only [settingGiven, mapEntries?, overlaySections, hbase]
  exact ⟨_, rfl⟩

end Sample

/-- A threshold from the file, one that two items assign, and workers that are chosen. -/
theorem options_layered_one_setting :
    let choices : RunChoices := ⟨[some "minLines=3", some " minLines =9"], .int 2, .null, true⟩
    let assigned : List (String × Value) := [("minLines", .int 3), ("minLines", .int 9)]
    (settingDisk "metrics" "7").readDocument ⟨.root, ["s.yml"]⟩ = .ok (settingGiven "metrics" 7) ∧
      List.Forall₂ Assigns choices.overrides assigned ∧
      ∃ document, ((settingDisk "metrics" "7").loadSettings ⟨.root, ["s.yml"]⟩).2 = .ok document ∧
        ∃ options, buildOptions .duplicates choices document = .ok options ∧
          options.Layered .duplicates choices assigned (settingGiven "metrics" 7) := by
  intro choices assigned
  have hfirst : Assigns (some "minLines=3") ("minLines", .int 3) :=
    parseItem_eq_ok.mp (parseOverride_eq_ok.mpr ⟨"3", rfl, rfl⟩)
  have hsecond : Assigns (some " minLines =9") ("minLines", .int 9) :=
    parseItem_eq_ok.mp (parseOverride_eq_ok.mpr ⟨"9", rfl, rfl⟩)
  have hitems : List.Forall₂ Assigns choices.overrides assigned := .cons hfirst (.cons hsecond .nil)
  have hown : ∀ key ∈ ThresholdKey.duplicates,
      (settingGiven "metrics" 7).setting? "metrics" key.name = none := by
    have hother : ∀ key ∈ ThresholdKey.duplicates, "highComplexity" ≠ key.name := by decide
    intro key hkey
    simp [Value.setting?, settingGiven, Value.get?, Value.lookup?, Value.sameKey, hother key hkey]
  have hsample : ("metrics", "7", 7) ∈ sampleSettings := by decide
  have hread := settingDisk_readDocument hsample
  obtain ⟨document, hload⟩ := settingDisk_loadSettings hsample
  have hdocument := congrArg Prod.snd hload
  exact ⟨hread, hitems, document, hdocument,
    options_layered (settingDisk "metrics" "7") ⟨.root, ["s.yml"]⟩ .duplicates choices hread hdocument hown
      hitems⟩

end CodeCensus
