import CodeCensus.Proofs.SettingsRules

/-!
# Thresholds read back

Accepted settings show their thresholds as two maps, one for each analysis. Together these have an entry for every
threshold: the value that was given for it, as it was given, or else the default. Every one of these values passes
the check of its threshold again, so settings that are read from them are the same as before.

## Contents
- `readThresholds_get` — the thresholds that are read, one by one;
- `readThresholds_entries` — entries of thresholds that pass their checks are read without a notice;
- `Settings.read_checked` — the thresholds of accepted settings pass their checks;
- `Settings.read_allEntries` — settings that are read from all of these entries;
- `thresholds_read_back` — reading the thresholds of accepted settings gives these settings again.
-/

namespace CodeCensus

section Reading

variable {entries : List (Value × Value)} {t read : Thresholds}

/-- A check takes the value as it is given. -/
theorem toValue_of_checkThreshold {k : ThresholdKey} {v : Value} {n : Number} (h : checkThreshold k v = .ok n) :
    n.toValue = v :=
  (checkThreshold_eq_ok_iff.mp h).1.1.symm

/-- **A threshold that is read** has the value that the last entry under its name gives, or else the one that it had
    before. -/
theorem readThresholds_get (h : (readThresholds entries t).2 = .ok read) (k : ThresholdKey) :
    (read.get k).toValue = (Value.lookup? entries.reverse (.text k.name)).getD (t.get k).toValue := by
  -- on the entries from the front, for every start: one that comes later wins over one that is set here
  induction entries generalizing t with
  | nil =>
      cases h
      rfl
  | cons entry rest ih =>
      obtain ⟨key, value⟩ := entry
      have hlookup : Value.lookup? ((key, value) :: rest).reverse (.text k.name) =
          (Value.lookup? rest.reverse (.text k.name)).or (if key.sameKey (.text k.name) then some value else none) := by
        rw [List.reverse_cons, Value.lookup?_append, Value.lookup?_cons]
        rfl
      rw [hlookup, Option.getD_or]
      cases hkey : ThresholdKey.ofValue? key with
      | none =>
          rw [readThresholds_cons_unknown hkey] at h
          have hother : ¬key.sameKey (.text k.name) = true := fun hsame =>
            ThresholdKey.ofValue?_eq_none.mp hkey k (Value.sameKey_text.mp hsame)
          rw [ih h, if_neg hother]
          rfl
      | some k' =>
          obtain rfl := ThresholdKey.ofValue?_eq_some.mp hkey
          cases hcheck : checkThreshold k' value with
          | error e =>
              rw [readThresholds_cons_error hkey hcheck] at h
              cases h
          | ok n =>
              rw [readThresholds_cons_ok hkey hcheck] at h
              rw [ih h, ← toValue_of_checkThreshold hcheck]
              by_cases hk : k = k'
              · subst hk
                simp [Thresholds.set, Value.sameKey]
              · have hname : k'.name ≠ k.name := fun hname => hk (ThresholdKey.name_injective hname.symm)
                simp [Thresholds.set, Value.sameKey, hk, hname]

/-- Entries of thresholds that pass their checks are all read, and nothing is noted. -/
theorem readThresholds_entries (h : ∀ k, checkThreshold k (t.get k).toValue = .ok (t.get k)) (keys : List ThresholdKey)
    (start : Thresholds) :
    readThresholds (t.entries keys) start = ([], .ok ⟨fun k => if k ∈ keys then t.get k else start.get k⟩) := by
  induction keys generalizing start with
  | nil => simp [Thresholds.entries, readThresholds]
  | cons k keys ih =>
      have hkey : ThresholdKey.ofValue? (.text k.name) = some k := ThresholdKey.ofValue?_eq_some.mpr rfl
      rw [Thresholds.entries_cons, readThresholds, hkey]
      simp only [h k, ih, Prod.mk.injEq, Except.ok.injEq, Thresholds.mk.injEq, true_and]
      funext k'
      by_cases hk : k' = k
      · simp [hk, Thresholds.set]
      · simp [hk, Thresholds.set]

end Reading

section Accepted

variable {raw : RawSettings} {settings : Settings}

/-- **The thresholds of accepted settings pass their checks,** each as it is. -/
theorem Settings.read_checked (h : (Settings.read raw).2 = .ok settings) (k : ThresholdKey) :
    checkThreshold k (settings.thresholds.get k).toValue = .ok (settings.thresholds.get k) := by
  have hchecked : ∀ {k given n}, checkThreshold k given = .ok n → checkThreshold k n.toValue = .ok n := by
    intro k given n hcheck
    rw [toValue_of_checkThreshold hcheck, hcheck]
  exact Settings.read_forall hchecked checkThreshold_default h k

/-- Accepted settings have the thresholds that were read from their entries. -/
theorem Settings.read_entries_eq_ok {entries : List (Value × Value)}
    (hentries : thresholdEntries raw.thresholds = .ok entries) (h : (Settings.read raw).2 = .ok settings) :
    (readThresholds entries .defaults).2 = .ok settings.thresholds ∧
      finishSettings raw settings.thresholds = .ok settings := by
  rw [Settings.read_entries hentries] at h
  cases hread : (readThresholds entries .defaults).2 with
  | error e =>
      rw [hread] at h
      cases h
  | ok t =>
      rw [hread] at h
      have hfinish : finishSettings raw t = .ok settings := h
      rw [(finishSettings_eq_ok hfinish).1]
      exact ⟨rfl, hfinish⟩

/-- Settings that are read from the entries of accepted thresholds are the same as before. -/
theorem Settings.read_allEntries (h : (Settings.read raw).2 = .ok settings)
    (hfinish : finishSettings raw settings.thresholds = .ok settings) :
    Settings.read { raw with thresholds := .map (settings.thresholds.entries ThresholdKey.all) } =
      (reversedNotices settings.thresholds, .ok settings) := by
  have hread := readThresholds_entries (Settings.read_checked h) ThresholdKey.all .defaults
  simp only [ThresholdKey.mem_all, if_true] at hread
  -- workers, time limit and workspace do not depend on the thresholds that are given
  have hfinish' : finishSettings { raw with thresholds := .map (settings.thresholds.entries ThresholdKey.all) }
      settings.thresholds = .ok settings := hfinish
  unfold Settings.read
  simp only [thresholdEntries, hread]
  rw [hfinish']
  rfl

end Accepted

/-- The thresholds of both analyses together are all thresholds. -/
theorem Thresholds.merge_entries (t : Thresholds) :
    Value.merge (t.entries ThresholdKey.duplicates) (t.entries ThresholdKey.metrics) = t.entries ThresholdKey.all := by
  have happend : t.entries ThresholdKey.duplicates ++ t.entries ThresholdKey.metrics = t.entries ThresholdKey.all :=
    List.map_append.symm
  rw [Value.merge_eq_append, happend]
  · intro e he
    obtain ⟨k, _, rfl⟩ := List.mem_map.mp he
    exact ⟨k.name, rfl⟩
  · rw [happend]
    exact t.textsApart_entries (by decide)

theorem unknownThreshold_not_mem_reversedNotices (t : Thresholds) (key : Value) :
    Notice.unknownThreshold key ∉ reversedNotices t := by
  unfold reversedNotices
  dsimp only
  split <;> simp

/-- **Thresholds read back.** The thresholds of accepted settings, those of the two analyses together, are ten entries,
    one under the name of each threshold. Each has the value that was given under that name, of the same kind, or else
    the default. Settings that are read from them, with everything else as it was, are accepted and the same as before.
    No entry is noted as unknown; if there is a notice at all, it is about limits that are the wrong way round. -/
theorem thresholds_read_back (raw : RawSettings) (entries : List (Value × Value)) (settings : Settings)
    (hentries : thresholdEntries raw.thresholds = .ok entries) (hapart : Value.TextsApart entries)
    (h : (Settings.read raw).2 = .ok settings) :
    ∃ duplicates metrics : List (Value × Value),
      settings.thresholds.toValue ThresholdKey.duplicates = .map duplicates ∧
      settings.thresholds.toValue ThresholdKey.metrics = .map metrics ∧
      let union := Value.merge duplicates metrics
      let again := Settings.read { raw with thresholds := .map union }
      union.map Prod.fst = ThresholdKey.all.map (fun k => .text k.name) ∧ union.length = 10 ∧
      (∀ k : ThresholdKey, Value.lookup? union (.text k.name) =
        some ((Value.lookup? entries (.text k.name)).getD k.default.toValue)) ∧
      again.2 = .ok settings ∧ again.1 = reversedNotices settings.thresholds ∧
      ∀ key, Notice.unknownThreshold key ∉ again.1 := by
  obtain ⟨hread, hfinish⟩ := Settings.read_entries_eq_ok hentries h
  refine ⟨_, _, settings.thresholds.toValue_eq _, settings.thresholds.toValue_eq _, ?_⟩
  rw [Thresholds.merge_entries]
  intro union again
  have hagain : again = (reversedNotices settings.thresholds, .ok settings) := Settings.read_allEntries h hfinish
  refine ⟨List.map_map, rfl, ?_, ?_, ?_, ?_⟩
  · intro k
    rw [settings.thresholds.lookup?_entries, if_pos k.mem_all, readThresholds_get hread k, Value.lookup?_reverse hapart]
    rfl
  · rw [hagain]
  · rw [hagain]
  · rw [hagain]
    exact unknownThreshold_not_mem_reversedNotices settings.thresholds

/-- Settings with an integer where a double is the default, the other way round, and an entry that names no
    threshold. -/
theorem thresholds_read_back_mixed_kinds :
    let half : Value := .float (.ofDecimal false 5 (-1))
    let entries : List (Value × Value) :=
      [(.text "similarityThreshold", .int 1), (.text "extra", .null), (.text "highComplexity", half)]
    let raw : RawSettings := { workspace := .text "ws", thresholds := .map entries, workers := .int 2 }
    ∃ (settings : Settings) (union : List (Value × Value)), (Settings.read raw).2 = .ok settings ∧
      Value.lookup? union (.text "similarityThreshold") = some (.int 1) ∧
      Value.lookup? union (.text "highComplexity") = some half ∧
      Value.lookup? union (.text "minLines") = some (.int 5) ∧
      (Settings.read { raw with thresholds := .map union }).2 = .ok settings := by
  intro half entries raw
  have hapart : Value.TextsApart entries := by
    simp [Value.TextsApart, entries]
  obtain ⟨settings, hok⟩ : ∃ settings, (Settings.read raw).2 = .ok settings := ⟨_, rfl⟩
  obtain ⟨duplicates, metrics, _, _, _, _, hvalues, hagain, _⟩ :=
    thresholds_read_back raw entries settings rfl hapart hok
  have hgiven : ∀ k : ThresholdKey, Value.lookup? entries (.text k.name) =
      match k with
      | .similarityThreshold => some (.int 1)
      | .highComplexity => some half
      | _ => none := by
    intro k
    cases k <;> simp [entries, Value.lookup?, Value.sameKey, ThresholdKey.name]
  simp only [hgiven] at hvalues
  exact ⟨settings, Value.merge duplicates metrics, hok, hvalues .similarityThreshold, hvalues .highComplexity,
    hvalues .minLines, hagain⟩

end CodeCensus
