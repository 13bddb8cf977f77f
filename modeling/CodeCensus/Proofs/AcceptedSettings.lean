import CodeCensus.Settings.Analysis

/-!
# Accepted settings

Settings that were accepted keep to the rules of their thresholds: the defaults do, and no value is set that
was not checked before.

## Contents
- `ThresholdKey.Allows` — the values that a threshold may have;
- `readThresholds_forall` — what holds of accepted values holds of the thresholds that are read;
- `Settings.read_forall` — the same for the thresholds of accepted settings;
- `Thresholds.Sound`, `Settings.read_sound` — thresholds with allowed values, and that accepted settings have them;
- `Settings.read_timeout` — their time limit.
-/

namespace CodeCensus

/-- The value is in the range of the threshold, and an integer where only those are taken. -/
structure ThresholdKey.Allows (k : ThresholdKey) (n : Number) : Prop where
  integer : k.integersOnly = true → ∃ m, n = .int m
  range : k.inRange n = true

/-- Every threshold has a value that it may have. -/
def Thresholds.Sound (t : Thresholds) : Prop := ∀ k : ThresholdKey, k.Allows (t.get k)

theorem ThresholdKey.allows_default (k : ThresholdKey) : k.Allows k.default := by
  constructor
  · cases k <;> simp [ThresholdKey.integersOnly, ThresholdKey.default]
  · cases k <;> decide +kernel

/-- The checks that an accepted value has passed. -/
theorem checkThreshold_eq_ok {k : ThresholdKey} {given : Value} {n : Number} :
    checkThreshold k given = .ok n ↔
      k.number? given = some n ∧ checkFinite k given n = .ok () ∧ k.inRange n = true := by
  unfold checkThreshold
  cases hnumber : k.number? given with
  | none => simp
  | some m =>
      cases hfinite : checkFinite k given m with
      | error e =>
          simp only [hfinite, bind, Except.bind, Option.some.injEq, reduceCtorEq, false_iff]
          rintro ⟨rfl, hok, _⟩
          rw [hfinite] at hok
          cases hok
      | ok u =>
          simp only [hfinite, bind, Except.bind, Option.some.injEq]
          by_cases hrange : k.inRange m = true
          · rw [if_pos hrange]
            constructor
            · intro h
              cases h
              exact ⟨rfl, hfinite, hrange⟩
            · rintro ⟨rfl, _, _⟩
              rfl
          · rw [if_neg hrange]
            constructor
            · intro h
              cases h
            · rintro ⟨rfl, _, h⟩
              exact absurd h hrange

theorem checkThreshold_allows {k : ThresholdKey} {given : Value} {n : Number}
    (h : checkThreshold k given = .ok n) : k.Allows n := by
  obtain ⟨hnumber, _, hrange⟩ := checkThreshold_eq_ok.mp h
  refine ⟨?_, hrange⟩
  intro hinteger
  cases given <;> simp [ThresholdKey.number?, hinteger] at hnumber
  exact ⟨_, hnumber.symm⟩

namespace Thresholds

/-- An integer threshold is at least its least value. -/
theorem Sound.least_le_int {t : Thresholds} (h : t.Sound) {k : ThresholdKey}
    (hk : k.integersOnly = true) : k.least ≤ t.int k := by
  obtain ⟨m, hm⟩ := (h k).integer hk
  have hrange := (h k).range
  unfold ThresholdKey.inRange at hrange
  rw [hm, Bool.and_eq_true, Bool.not_eq_true'] at hrange
  have hint : t.int k = m := by simp [Thresholds.int, hm]
  have hnot : ¬ compare m k.least = .lt := by
    simpa [Number.lt, Number.compare?] using hrange.1
  rw [hint]
  exact Int.not_lt.mp fun hlt => hnot (Int.compare_eq_lt.mpr hlt)

end Thresholds

/-- What holds of every value that is accepted, and of the values at the start, holds of what is read. -/
theorem readThresholds_forall {P : ThresholdKey → Number → Prop}
    (hcheck : ∀ {k given n}, checkThreshold k given = .ok n → P k n) {entries : List (Value × Value)}
    {t read : Thresholds} (ht : ∀ k, P k (t.get k)) (h : (readThresholds entries t).2 = .ok read) :
    ∀ k, P k (read.get k) := by
  induction entries generalizing t with
  | nil =>
      cases h
      exact ht
  | cons entry rest ih =>
      obtain ⟨key, value⟩ := entry
      unfold readThresholds at h
      split at h
      next => exact ih ht h
      next k hk =>
        split at h
        next => cases h
        next n hn =>
          refine ih ?_ h
          intro key
          by_cases hkey : key = k
          · subst hkey
            simpa [Thresholds.set] using hcheck hn
          · simpa [Thresholds.set, hkey] using ht key

/-- The settings apart from the thresholds are each read from the value given for them. -/
theorem finishSettings_eq_ok {raw : RawSettings} {t : Thresholds} {settings : Settings}
    (h : finishSettings raw t = .ok settings) :
    settings.thresholds = t ∧ readWorkers raw.workers = .ok settings.workers ∧
      readTimeout raw.timeout = .ok settings.timeout := by
  unfold finishSettings at h
  cases hworkers : readWorkers raw.workers with
  | error e => simp [hworkers, bind, Except.bind] at h
  | ok workers =>
      cases htimeout : readTimeout raw.timeout with
      | error e => simp [hworkers, htimeout, bind, Except.bind] at h
      | ok timeout =>
          cases hworkspace : readWorkspace raw.workspace with
          | error e => simp [hworkers, htimeout, hworkspace, bind, Except.bind] at h
          | ok workspace =>
              simp only [hworkers, htimeout, hworkspace, bind, Except.bind, pure, Except.pure,
                Except.ok.injEq] at h
              subst h
              exact ⟨rfl, rfl, rfl⟩

/-- Accepted settings have the thresholds that were read, and come with a notice if these are the wrong way
    round. -/
theorem Settings.read_eq_ok {raw : RawSettings} {settings : Settings}
    (h : (Settings.read raw).2 = .ok settings) :
    ∃ entries t, (readThresholds entries .defaults).2 = .ok t ∧ finishSettings raw t = .ok settings ∧
      reversedNotices t ⊆ (Settings.read raw).1 := by
  unfold Settings.read at h ⊢
  split at h
  next => cases h
  next entries hentries =>
    rcases hread : readThresholds entries .defaults with ⟨notices, _ | t⟩
    · simp [hread] at h
    · simp only [hread] at h ⊢
      split at h
      next => cases h
      next accepted hfinish =>
        cases h
        exact ⟨entries, t, by rw [hread], hfinish, List.subset_append_right _ _⟩

/-- **What holds of every value that is accepted, and of the defaults, holds of the thresholds of accepted
    settings.** -/
theorem Settings.read_forall {P : ThresholdKey → Number → Prop}
    (hcheck : ∀ {k given n}, checkThreshold k given = .ok n → P k n) (hdefault : ∀ k : ThresholdKey, P k k.default)
    {raw : RawSettings} {settings : Settings} (h : (Settings.read raw).2 = .ok settings) :
    ∀ k, P k (settings.thresholds.get k) := by
  obtain ⟨entries, t, hread, hfinish, _⟩ := Settings.read_eq_ok h
  rw [(finishSettings_eq_ok hfinish).1]
  exact readThresholds_forall hcheck hdefault hread

/-- The thresholds of accepted settings are sound. -/
theorem Settings.read_sound {raw : RawSettings} {settings : Settings}
    (h : (Settings.read raw).2 = .ok settings) : settings.thresholds.Sound :=
  Settings.read_forall checkThreshold_allows ThresholdKey.allows_default h

end CodeCensus
