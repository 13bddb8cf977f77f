import CodeCensus.CommandLine.Run
import CodeCensus.Proofs.OptionLayers

/-!
# Starting a run

Between the command line and the analysis stand the settings file and the items that assign thresholds. By rule, a
file that cannot be used ends the run with the status 1 and a message about the file, and an item that cannot be
used with the status 2 and a usage error. Both are read by the same reader, but what it cannot read is covered by
the rules in different parts. A file may be malformed; one with a scalar that does not write what its tag says, or
with bytes that are no text, ends the run by no rule. An item may write a bad scalar; one whose value is malformed
ends the run by no rule.

## Contents
- `FirstFault`, `parseOverrides_eq_faulty` — the first item that cannot be read, and its fault;
- `buildOptions_loaded` — under a loaded document, options fail for items alone;
- `EndsByRule`, `EndsByNoRule` — how the start of a run may end;
- `ReadsFile`, `ReadsFile.start_cases` — one of the two holds, from the settings file on;
- `start_ends_by_rule_iff` — when it ends by rule.
-/

namespace CodeCensus

/-! ## Items that cannot be read -/

/-- The items up to one assign values; that one has a key, but its value cannot be read. -/
def FirstFault (items : List (Option String)) (fault : Yaml.Fault) : Prop :=
  ∃ before key raw after, items = before ++ some (String.ofList (key ++ '=' :: raw)) :: after ∧
    (∀ item ∈ before, ∃ assigned, Assigns item assigned) ∧ '=' ∉ key ∧
    String.ofList (Text.trimChars key) ≠ "" ∧ writtenValue (String.ofList raw) = .error fault

/-- What an item cannot be read for: it is no assignment, or its value cannot be read. -/
theorem parseOverride_eq_error {item : String} {e : OverrideError} (h : parseOverride item = .error e) :
    e = .notAssignment item ∨
      ∃ split fault, splitOverride item = .ok split ∧ writtenValue split.2 = .error fault ∧ e = .faulty fault := by
  unfold parseOverride at h
  cases hsplit : splitOverride item with
  | error e' =>
      rw [hsplit] at h
      cases h
      left
      unfold splitOverride at hsplit
      dsimp only at hsplit
      split at hsplit
      next =>
        cases hsplit
        rfl
      next =>
        split at hsplit
        next =>
          cases hsplit
          rfl
        next => cases hsplit
  | ok split =>
      right
      obtain ⟨key, raw⟩ := split
      rw [hsplit] at h
      simp only [bind, Except.bind] at h
      split at h
      next => cases h
      next hblank =>
        split at h
        next => cases h
        next fault hload =>
          cases h
          exact ⟨(key, raw), fault, rfl, by rw [writtenValue, if_neg hblank, hload], rfl⟩

theorem parseOverride_faulty {item : String} {split : String × String} {fault : Yaml.Fault}
    (hsplit : splitOverride item = .ok split) (hfault : writtenValue split.2 = .error fault) :
    parseOverride item = .error (.faulty fault) := by
  unfold parseOverride
  rw [hsplit]
  unfold writtenValue at hfault
  split at hfault
  next => cases hfault
  next hblank => simp [bind, Except.bind, hblank, hfault, throw, throwThe, MonadExceptOf.throw]

theorem parseItem_eq_faulty {item : Option String} {fault : Yaml.Fault} :
    parseItem item = .error (.faulty fault) ↔
      ∃ key raw, item = some (String.ofList (key ++ '=' :: raw)) ∧ '=' ∉ key ∧
        String.ofList (Text.trimChars key) ≠ "" ∧ writtenValue (String.ofList raw) = .error fault := by
  cases item with
  | none => simp [parseItem]
  | some item =>
      unfold parseItem
      constructor
      · intro h
        rcases parseOverride_eq_error h with hnot | ⟨split, fault', hsplit, hvalue, hfault⟩
        · cases hnot
        · cases hfault
          obtain ⟨key, raw, rfl, hkey, hname, hne, hraw⟩ := splitOverride_eq_ok.mp hsplit
          exact ⟨key, raw, rfl, hkey, hname ▸ hne, hraw ▸ hvalue⟩
      · rintro ⟨key, raw, hitem, hkey, hne, hvalue⟩
        have hsplit : splitOverride item = .ok (String.ofList (Text.trimChars key), String.ofList raw) :=
          splitOverride_eq_ok.mpr ⟨key, raw, Option.some.inj hitem, hkey, rfl, hne, rfl⟩
        exact parseOverride_faulty hsplit hvalue

theorem parseOverrides_eq_error_iff {items : List (Option String)} {e : OverrideError} :
    parseOverrides items = .error e ↔
      ∃ before item after, items = before ++ item :: after ∧
        (∀ p ∈ before, ∃ assigned, Assigns p assigned) ∧ parseItem item = .error e := by
  have hpairs : parseOverrides items = .error e ↔ items.mapM parseItem = .error e := by
    unfold parseOverrides
    cases items.mapM parseItem <;> simp [bind, Except.bind, pure, Except.pure]
  rw [hpairs, mapM_eq_error_iff]
  simp only [parseItem_eq_ok]

/-- **The items are given up at the first that cannot be read.** -/
theorem parseOverrides_eq_faulty {items : List (Option String)} {fault : Yaml.Fault} :
    parseOverrides items = .error (.faulty fault) ↔ FirstFault items fault := by
  rw [parseOverrides_eq_error_iff]
  constructor
  · rintro ⟨before, item, after, rfl, hbefore, hitem⟩
    obtain ⟨key, raw, rfl, hkey, hne, hvalue⟩ := parseItem_eq_faulty.mp hitem
    exact ⟨before, key, raw, after, rfl, hbefore, hkey, hne, hvalue⟩
  · rintro ⟨before, key, raw, after, rfl, hbefore, hkey, hne, hvalue⟩
    exact ⟨before, _, after, rfl, hbefore, parseItem_eq_faulty.mpr ⟨key, raw, rfl, hkey, hne, hvalue⟩⟩

theorem parseOverrides_ne_noItem {items : List (Option String)} (h : none ∉ items) :
    parseOverrides items ≠ .error .noItem := by
  intro hnone
  obtain ⟨before, item, after, rfl, _, hitem⟩ := parseOverrides_eq_error_iff.mp hnone
  cases item with
  | none => simp at h
  | some item =>
      rcases parseOverride_eq_error hitem with hnot | ⟨_, _, _, _, hfault⟩
      · cases hnot
      · cases hfault

/-! ## Options under a loaded document -/

section Loaded

variable {fs : FileSystem} {path : Path} {document : Value} {choices : RunChoices}

/-- Under a document that was loaded, only the items can keep the options from being built. -/
theorem buildOptions_loaded {overrides : List (Value × Value)} (command : Command)
    (hload : (fs.loadSettings path).2 = .ok document)
    (hitems : parseOverrides choices.overrides = .ok overrides) :
    ∃ options, buildOptions command choices document = .ok options := by
  obtain ⟨_, sections, _, _, _, _, rfl, hduplicates, hmetrics, hrun⟩ :=
    FileSystem.loadSettings_sections hload
  exact ⟨_, buildOptions_eq_ok hrun.sectionOf_eq (flattenThresholds_eq hduplicates hmetrics) hitems⟩

theorem buildOptions_loaded_error {e : OverrideError} (command : Command)
    (hload : (fs.loadSettings path).2 = .ok document)
    (hitems : parseOverrides choices.overrides = .error e) :
    buildOptions command choices document = .error (.override e) := by
  obtain ⟨_, sections, _, _, _, _, rfl, hduplicates, hmetrics, hrun⟩ :=
    FileSystem.loadSettings_sections hload
  unfold buildOptions
  rw [hrun.sectionOf_eq, flattenThresholds_eq hduplicates hmetrics, hitems]
  rfl

end Loaded

/-! ## Ends of the start -/

/-- The console once the settings file was read. -/
def readConsole (fs : FileSystem) (path : Path) : Console := (Console.fresh fs).log (fs.loadSettings path).1

/-- The console once its settings are known. -/
def loadedConsole (fs : FileSystem) (a : Arguments) (path : Path) : Console :=
  (readConsole fs path).mention a.verbose (.configLoaded path)

/-- The start of a run goes on to the analysis, or ends by rule: with the status 1 and a message about a settings
    file that cannot be used, or with the status 2 and a usage error about an item that cannot be used. -/
inductive EndsByRule (host : RunHost) (fs : FileSystem) (a : Arguments) (command : Command) (path : Path) :
    Console × Started → Prop
  | analyzes {document : Value} {options : RunOptions} (hload : (fs.loadSettings path).2 = .ok document)
      (hoptions : buildOptions command (choicesOf a) document = .ok options) :
      EndsByRule host fs a command path (startPlan ⟨command, a, options, host⟩ (loadedConsole fs a path))
  | refusesFile {e : DocumentError} (hload : (fs.loadSettings path).2 = .error e) :
      EndsByRule host fs a command path
        ((readConsole fs path).say (.configInvalid path e), .ended (.exit 1))
  | refusesItem {document : Value} {e : OverrideError} (hload : (fs.loadSettings path).2 = .ok document)
      (hitems : parseOverrides a.thresholds = .error e) :
      EndsByRule host fs a command path
        ((loadedConsole fs a path).say (.usage (.badOverride e.message)), .ended (.exit 2))

/-- The start of a run ends by no rule, with a failure that comes from the settings file or from an item. -/
inductive EndsByNoRule (fs : FileSystem) (a : Arguments) (path : Path) : Console × Started → Prop
  | file {e : DocumentError} (hload : (fs.loadSettings path).2 = .error e) (he : e.isReported = false) :
      EndsByNoRule fs a path (readConsole fs path, .ended (.escaped (.document e)))
  | item {document : Value} {fault : Yaml.Fault} (hload : (fs.loadSettings path).2 = .ok document)
      (hfault : FirstFault a.thresholds fault) (hvalue : fault.isValueFault = false) :
      EndsByNoRule fs a path (loadedConsole fs a path, .ended (.escaped (.override fault)))

/-- The command line asks for an analysis under the settings of a regular file, and its items are texts. -/
structure ReadsFile (argv : List String) (fs : FileSystem) (a : Arguments) (command : Command) (path : Path) :
    Prop where
  parsed : parseArguments argv = .ok a
  no_starter : a.initConfig = false
  no_templates : filled a.initTemplates = none
  command_eq : a.command = some command
  config : ∃ name, filled a.config = some name ∧ path = Path.parse name
  file : ∃ place content modified, fs.locate path = .ok (place, .file content modified)
  items : none ∉ a.thresholds

section Start

variable {argv : List String} {fs : FileSystem} {a : Arguments} {command : Command} {path : Path}

theorem ReadsFile.start_eq (h : ReadsFile argv fs a command path) (host : RunHost) :
    startCommandLine host argv fs = startCommand host a command (Console.fresh fs) := by
  unfold startCommandLine startArguments
  simp only [h.parsed, h.no_starter, h.no_templates, h.command_eq, Bool.false_eq_true, if_false]

theorem ReadsFile.exists (h : ReadsFile argv fs a command path) : fs.exists? path = .ok true := by
  obtain ⟨place, content, modified, hlocate⟩ := h.file
  simp [FileSystem.exists?, hlocate]

theorem ReadsFile.loadDocument_eq_ok (h : ReadsFile argv fs a command path) {document : Value}
    (hload : (fs.loadSettings path).2 = .ok document) :
    loadDocument (Console.fresh fs) a = (loadedConsole fs a path, .ok document) := by
  obtain ⟨name, hname, rfl⟩ := h.config
  have hfs : (Console.fresh fs).fs = fs := rfl
  unfold loadDocument loadedConsole readConsole
  rcases hsettings : fs.loadSettings (Path.parse name) with ⟨notices, result⟩
  rw [hsettings] at hload
  simp only at hload
  simp only [hname, hfs, h.exists, hsettings, hload]

theorem ReadsFile.loadDocument_eq_error (h : ReadsFile argv fs a command path) {e : DocumentError}
    (hload : (fs.loadSettings path).2 = .error e) :
    loadDocument (Console.fresh fs) a =
      if e.isReported then ((readConsole fs path).say (.configInvalid path e), .error (.exit 1))
      else (readConsole fs path, .error (.escaped (.document e))) := by
  obtain ⟨name, hname, rfl⟩ := h.config
  have hfs : (Console.fresh fs).fs = fs := rfl
  unfold loadDocument readConsole
  rcases hsettings : fs.loadSettings (Path.parse name) with ⟨notices, result⟩
  rw [hsettings] at hload
  simp only at hload
  simp only [hname, hfs, h.exists, hsettings, hload]

/-- From a settings file that cannot be used. -/
theorem ReadsFile.startCommand_eq_error (h : ReadsFile argv fs a command path) {e : DocumentError}
    (host : RunHost) (hload : (fs.loadSettings path).2 = .error e) :
    startCommand host a command (Console.fresh fs) =
      if e.isReported then ((readConsole fs path).say (.configInvalid path e), .ended (.exit 1))
      else (readConsole fs path, .ended (.escaped (.document e))) := by
  unfold startCommand
  rw [h.loadDocument_eq_error hload]
  cases e.isReported <;> rfl

/-- From items that cannot be used. -/
theorem ReadsFile.startCommand_eq_optionsEnd (h : ReadsFile argv fs a command path) {document : Value}
    {e : OverrideError} (host : RunHost) (hload : (fs.loadSettings path).2 = .ok document)
    (hitems : parseOverrides a.thresholds = .error e) :
    startCommand host a command (Console.fresh fs) = optionsEnd (loadedConsole fs a path) (.override e) := by
  have hoptions : buildOptions command (choicesOf a) document = .error (.override e) :=
    buildOptions_loaded_error command hload hitems
  unfold startCommand
  rw [h.loadDocument_eq_ok hload]
  simp only [hoptions]

theorem ReadsFile.byNoRule_of_file (h : ReadsFile argv fs a command path) {e : DocumentError}
    (host : RunHost) (hload : (fs.loadSettings path).2 = .error e) (he : e.isReported = false) :
    EndsByNoRule fs a path (startCommandLine host argv fs) := by
  rw [h.start_eq, h.startCommand_eq_error host hload, he]
  exact .file hload he

theorem ReadsFile.byNoRule_of_item (h : ReadsFile argv fs a command path) {document : Value}
    {fault : Yaml.Fault} (host : RunHost) (hload : (fs.loadSettings path).2 = .ok document)
    (hfault : FirstFault a.thresholds fault) (hvalue : fault.isValueFault = false) :
    EndsByNoRule fs a path (startCommandLine host argv fs) := by
  rw [h.start_eq, h.startCommand_eq_optionsEnd host hload (parseOverrides_eq_faulty.mpr hfault)]
  show EndsByNoRule fs a path (if fault.isValueFault = true then _ else _)
  rw [hvalue]
  exact .item hload hfault hvalue

/-- **The start of a run** ends by rule or, for a fault that no rule covers, by none. -/
theorem ReadsFile.start_cases (h : ReadsFile argv fs a command path) (host : RunHost) :
    EndsByRule host fs a command path (startCommandLine host argv fs) ∨
      EndsByNoRule fs a path (startCommandLine host argv fs) := by
  cases hload : (fs.loadSettings path).2 with
  | error e =>
      cases hreported : e.isReported with
      | true =>
          rw [h.start_eq, h.startCommand_eq_error host hload, hreported]
          exact .inl (.refusesFile hload)
      | false => exact .inr (h.byNoRule_of_file host hload hreported)
  | ok document =>
      cases hitems : parseOverrides a.thresholds with
      | ok overrides =>
          obtain ⟨options, hoptions⟩ : ∃ options, buildOptions command (choicesOf a) document = .ok options :=
            buildOptions_loaded command hload hitems
          have hstart : startCommand host a command (Console.fresh fs) =
              startPlan ⟨command, a, options, host⟩ (loadedConsole fs a path) := by
            unfold startCommand
            rw [h.loadDocument_eq_ok hload]
            simp only [hoptions]
          rw [h.start_eq, hstart]
          exact .inl (.analyzes hload hoptions)
      | error e =>
          have hstart := h.startCommand_eq_optionsEnd host hload hitems
          cases e with
          | notAssignment item =>
              rw [h.start_eq, hstart]
              exact .inl (.refusesItem hload hitems)
          | noItem => exact absurd hitems (parseOverrides_ne_noItem h.items)
          | faulty fault =>
              cases hvalue : fault.isValueFault with
              | true =>
                  rw [h.start_eq, hstart]
                  show EndsByRule host fs a command path (if fault.isValueFault = true then _ else _) ∨ _
                  rw [hvalue]
                  exact .inl (.refusesItem hload hitems)
              | false =>
                  exact .inr (h.byNoRule_of_item host hload (parseOverrides_eq_faulty.mp hitems) hvalue)

/-- No end is both. -/
theorem EndsByNoRule.not_byRule {host : RunHost} {started : Console × Started}
    (h : EndsByNoRule fs a path started) : ¬EndsByRule host fs a command path started := by
  intro hrule
  cases h with
  | @file e hload he =>
      generalize hstarted : (readConsole fs path, Started.ended (.escaped (.document e))) = started at hrule
      cases hrule with
      | analyzes hload' _ =>
          rw [hload] at hload'
          cases hload'
      | refusesFile _ => cases (Prod.mk.inj hstarted).2
      | refusesItem _ _ => cases (Prod.mk.inj hstarted).2
  | @item document fault hload hfault hvalue =>
      generalize hstarted : (loadedConsole fs a path, Started.ended (.escaped (.override fault))) = started
        at hrule
      cases hrule with
      | @analyzes document' _ hload' hoptions =>
          have herror := buildOptions_loaded_error command hload'
            (show parseOverrides (choicesOf a).overrides = _ from parseOverrides_eq_faulty.mpr hfault)
          rw [herror] at hoptions
          cases hoptions
      | refusesFile _ => cases (Prod.mk.inj hstarted).2
      | refusesItem _ _ => cases (Prod.mk.inj hstarted).2

end Start

/-- **How the start of a run ends.** When the command line asks for an analysis under the settings of a regular
    file, the run goes on to the analysis or ends by rule, exactly when a file that cannot be used is malformed or
    rejected, and the first item that cannot be read, under a file that can be used, has a bad value. In all other
    cases it ends by no rule. -/
theorem start_ends_by_rule_iff (host : RunHost) {argv : List String} {fs : FileSystem} {a : Arguments}
    {command : Command} {path : Path} (h : ReadsFile argv fs a command path) :
    (EndsByRule host fs a command path (startCommandLine host argv fs) ↔
      (∀ e, (fs.loadSettings path).2 = .error e → e.isReported = true) ∧
        ∀ document, (fs.loadSettings path).2 = .ok document →
          ∀ fault, FirstFault a.thresholds fault → fault.isValueFault = true) ∧
      (¬EndsByRule host fs a command path (startCommandLine host argv fs) →
        EndsByNoRule fs a path (startCommandLine host argv fs)) := by
  have hcases := h.start_cases host
  refine ⟨⟨?_, ?_⟩, hcases.resolve_left⟩
  · intro hrule
    constructor
    · intro e hload
      by_contra hnot
      exact (h.byNoRule_of_file host hload (Bool.not_eq_true _ ▸ hnot)).not_byRule hrule
    · intro document hload fault hfault
      by_contra hnot
      exact (h.byNoRule_of_item host hload hfault (Bool.not_eq_true _ ▸ hnot)).not_byRule hrule
  · rintro ⟨hfile, hitems⟩
    refine hcases.resolve_right ?_
    generalize startCommandLine host argv fs = started
    rintro (⟨hload, he⟩ | ⟨hload, hfault, hvalue⟩)
    · simp [hfile _ hload] at he
    · simp [hitems _ hload _ hfault] at hvalue

/-! ## Starts with one item -/

/-- A host that never stops a run. -/
def quietHost : RunHost := ⟨fun _ => false, .ofInt 0, fun _ => .ofInt 0, 1, fun _ _ => 0⟩

/-- The arguments of a command line with a settings file at the root of the disk, and some items. -/
def itemArguments (command : Command) (name : String) (items : List String) : Arguments :=
  { command := some command, config := some ("/" ++ name), thresholds := items.map some }

theorem itemArguments_readsFile {argv items : List String} {command : Command} {name : String}
    (content : ByteArray) (hparse : parseArguments argv = .ok (itemArguments command name items))
    (hpath : Path.parse ("/" ++ name) = ⟨.root, [name]⟩) (hname : FileSystem.EntryName name) :
    ReadsFile argv (.withFile name content) (itemArguments command name items) command ⟨.root, [name]⟩ where
  parsed := hparse
  no_starter := rfl
  no_templates := rfl
  command_eq := rfl
  config := ⟨"/" ++ name, by simp [filled, itemArguments], hpath.symm⟩
  file := ⟨_, _, _, FileSystem.withFile_locate content hname⟩
  items := by simp [itemArguments]

/-- A command line with one item, and a settings file that can be used. -/
theorem oneItem_readsFile (item : String)
    (hparse : parseArguments ["metrics", "--config", "/s.yml", "--threshold", item] =
      .ok (itemArguments .metrics "s.yml" [item])) :
    ReadsFile ["metrics", "--config", "/s.yml", "--threshold", item] (settingDisk "metrics" "7")
      (itemArguments .metrics "s.yml" [item]) .metrics ⟨.root, ["s.yml"]⟩ :=
  itemArguments_readsFile _ hparse rfl (by decide)

theorem loadText_badDate : Yaml.loadText "2001-13-45" = .error (.badDate "month must be in 1..12") := by
  have htokens : Yaml.limitDepth 0 (Yaml.scanTokens (.ofText "2001-13-45")) =
      [.scalar true "2001-13-45", .streamEnd] :=
    rfl
  have hparsed : Yaml.parseDocument? [.scalar true "2001-13-45", .streamEnd] =
      .ok (some (#[⟨Yaml.coreTag "timestamp", .scalar "2001-13-45"⟩], 0)) :=
    rfl
  unfold Yaml.loadText Yaml.loadStream
  rw [htokens, hparsed]
  rfl

/-- An item whose value is a date with a thirteenth month is a usage error. -/
theorem start_ends_by_rule_at_bad_date :
    let argv := ["metrics", "--config", "/s.yml", "--threshold", "a=2001-13-45"]
    let arguments := itemArguments .metrics "s.yml" ["a=2001-13-45"]
    ReadsFile argv (settingDisk "metrics" "7") arguments .metrics ⟨.root, ["s.yml"]⟩ ∧
      EndsByRule quietHost (settingDisk "metrics" "7") arguments .metrics ⟨.root, ["s.yml"]⟩
        (startCommandLine quietHost argv (settingDisk "metrics" "7")) := by
  intro argv arguments
  have hreads := oneItem_readsFile "a=2001-13-45" rfl
  have hwritten : writtenValue "2001-13-45" = .error (.badDate "month must be in 1..12") := by
    rw [writtenValue, if_neg (by decide)]
    exact loadText_badDate
  have hfirst : FirstFault arguments.thresholds (.badDate "month must be in 1..12") :=
    ⟨[], ['a'], "2001-13-45".toList, [], rfl, by simp, by decide, by decide, hwritten⟩
  refine ⟨hreads, (start_ends_by_rule_iff quietHost hreads).1.mpr ⟨?_, ?_⟩⟩
  · intro e hload
    have hsample : ("metrics", "7", 7) ∈ sampleSettings := by decide
    obtain ⟨document, hloaded⟩ := settingDisk_loadSettings hsample
    rw [congrArg Prod.snd hloaded] at hload
    cases hload
  · intro document _ fault hfault
    have hsame := (parseOverrides_eq_faulty.mpr hfirst).symm.trans (parseOverrides_eq_faulty.mpr hfault)
    cases hsame
    rfl

theorem loadText_malformed : Yaml.loadText "[1" = .error .malformed := by
  have htokens : Yaml.limitDepth 0 (Yaml.scanTokens (.ofText "[1")) =
      [.flowSequenceStart, .scalar true "1", .streamEnd] :=
    rfl
  have hparsed : Yaml.parseDocument? [.flowSequenceStart, .scalar true "1", .streamEnd] =
      .error .malformed :=
    rfl
  unfold Yaml.loadText Yaml.loadStream
  rw [htokens, hparsed]
  rfl

/-- A settings file that is no text. -/
theorem loadSettings_notText {name : String} (hname : FileSystem.EntryName name) :
    ((FileSystem.withFile name ⟨#[255]⟩).loadSettings ⟨.root, [name]⟩).2 =
      .error (.notUtf8 ⟨0, [255], .invalidStart⟩) := by
  have hpieces : Text.decodePieces (ByteArray.mk #[255]).toList = ⟨[], some ⟨0, [255], .invalidStart⟩⟩ := by
    decide +kernel
  have htokens : Yaml.limitDepth 0 (Yaml.scanTokens (.ofPieces ⟨[], some ⟨0, [255], .invalidStart⟩⟩)) =
      [.broken .unreadable] :=
    rfl
  have hload : Yaml.loadStream 2 (.ofPieces ⟨[], some ⟨0, [255], .invalidStart⟩⟩) = .error .unreadable := by
    unfold Yaml.loadStream
    rw [htokens]
    rfl
  have hread : (FileSystem.withFile name ⟨#[255]⟩).readDocument ⟨.root, [name]⟩ =
      .error (.notUtf8 ⟨0, [255], .invalidStart⟩) := by
    unfold FileSystem.readDocument
    rw [FileSystem.readBytes_of_locate (FileSystem.withFile_locate _ hname)]
    simp only [hpieces, hload]
    rfl
  unfold FileSystem.loadSettings
  rw [hread]

/-- A settings file that is no text, and an item whose value is malformed, end the run by no rule. -/
theorem start_ends_by_no_rule :
    (let argv := ["duplicates", "--config", "/c.yaml"]
      let disk := FileSystem.withFile "c.yaml" ⟨#[255]⟩
      let arguments := itemArguments .duplicates "c.yaml" []
      ReadsFile argv disk arguments .duplicates ⟨.root, ["c.yaml"]⟩ ∧
        ¬EndsByRule quietHost disk arguments .duplicates ⟨.root, ["c.yaml"]⟩
          (startCommandLine quietHost argv disk)) ∧
    (let argv := ["metrics", "--config", "/s.yml", "--threshold", "a=[1"]
      let disk := settingDisk "metrics" "7"
      let arguments := itemArguments .metrics "s.yml" ["a=[1"]
      ReadsFile argv disk arguments .metrics ⟨.root, ["s.yml"]⟩ ∧
        ¬EndsByRule quietHost disk arguments .metrics ⟨.root, ["s.yml"]⟩
          (startCommandLine quietHost argv disk)) := by
  constructor
  · intro argv disk arguments
    have hreads : ReadsFile argv disk arguments .duplicates ⟨.root, ["c.yaml"]⟩ :=
      itemArguments_readsFile _ rfl rfl (by decide)
    have hload : (disk.loadSettings ⟨.root, ["c.yaml"]⟩).2 = .error (.notUtf8 ⟨0, [255], .invalidStart⟩) :=
      loadSettings_notText (by decide)
    exact ⟨hreads, (hreads.byNoRule_of_file quietHost hload rfl).not_byRule⟩
  · intro argv disk arguments
    have hreads : ReadsFile argv disk arguments .metrics ⟨.root, ["s.yml"]⟩ := oneItem_readsFile "a=[1" rfl
    have hwritten : writtenValue "[1" = .error .malformed := by
      rw [writtenValue, if_neg (by decide)]
      exact loadText_malformed
    have hfirst : FirstFault arguments.thresholds .malformed :=
      ⟨[], ['a'], "[1".toList, [], rfl, by simp, by decide, by decide, hwritten⟩
    have hsample : ("metrics", "7", 7) ∈ sampleSettings := by decide
    obtain ⟨document, hload⟩ := settingDisk_loadSettings hsample
    exact ⟨hreads, (hreads.byNoRule_of_item quietHost (congrArg Prod.snd hload) hfirst rfl).not_byRule⟩

end CodeCensus
