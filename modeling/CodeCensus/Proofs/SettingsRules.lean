import CodeCensus.Proofs.AcceptedSettings
import CodeCensus.Proofs.DoubleOrder
import CodeCensus.Proofs.ThresholdEntries

/-!
# Rules for settings

What settings have to be to be accepted, said without the order of the checks: each threshold takes numbers of
certain kinds, finite ones, within bounds; workers and a time limit are positive if there are any. The checks go
through the entries in order and then to workers and time limit, so settings that break a rule are rejected for the
first rule that they break in that order. Entries that name no threshold are passed over.

## Contents
- `ThresholdKey.Accepts`, `ThresholdKey.Rejects` — the rules of a threshold, and how a value breaks them;
- `exists_checkThreshold_eq_ok`, `ThresholdKey.Rejects.checkThreshold_eq` — each check by the rules;
- `AllAccepted`, `FirstOffence` — entries that keep to the rules, and the first that does not;
- `exists_readThresholds`, `FirstOffence.readThresholds_eq`, `readThresholds_unknown` — reading the entries;
- `settings_accepted_iff` — which settings are accepted, and why others are not.
-/

namespace CodeCensus

/-! ## Rules of a threshold -/

/-- The number as a double is neither infinite nor a NaN. -/
def Number.IsFinite (n : Number) : Prop := ∃ x, n.toDouble = .ok x ∧ x.isFinite = true

namespace ThresholdKey

/-- The value is this number, and the threshold takes its kind. Truth values are no numbers. -/
def Takes (k : ThresholdKey) (v : Value) (n : Number) : Prop :=
  v = n.toValue ∧ (k.integersOnly = true → ∃ m, n = .int m)

/-- The number is neither below the least value of the threshold nor above the greatest. -/
def Bounds (k : ThresholdKey) (n : Number) : Prop :=
  ∃ r : ℝ, n.value? = some (r : EReal) ∧ (k.least : ℝ) ≤ r ∧ ∀ top ∈ k.greatest?, r ≤ (top : ℝ)

/-- The value keeps to all rules of the threshold. -/
def Accepts (k : ThresholdKey) (v : Value) : Prop := ∃ n, k.Takes v n ∧ n.IsFinite ∧ k.Bounds n

/-- The first rule of the threshold that the value breaks. -/
inductive Rejects (k : ThresholdKey) (v : Value) : SettingsError → Prop
  | kind (h : ∀ n, ¬k.Takes v n) : Rejects k v (.wrongKind k v)
  | tooLarge {m : Int} (htakes : k.Takes v (.int m)) (h : ¬(Number.int m).IsFinite) : Rejects k v (.tooLarge k)
  | notFinite {x : Double} (htakes : k.Takes v (.double x)) (h : ¬(Number.double x).IsFinite) :
      Rejects k v (.notFinite k v)
  | range {n : Number} (htakes : k.Takes v n) (hfinite : n.IsFinite) (h : ¬k.Bounds n) :
      Rejects k v (.outOfRange k v)

end ThresholdKey

/-! ## One check after another -/

section Checks

variable {k : ThresholdKey} {v : Value} {n : Number} {e : SettingsError}

theorem ThresholdKey.number?_eq_some : k.number? v = some n ↔ k.Takes v n := by
  constructor
  · intro h
    cases v with
    | int m =>
        obtain rfl := Option.some.inj h
        exact ⟨rfl, fun _ => ⟨m, rfl⟩⟩
    | float x =>
        simp only [ThresholdKey.number?, Option.ite_none_left_eq_some, Option.some.injEq] at h
        obtain ⟨hdoubles, rfl⟩ := h
        exact ⟨rfl, fun hintegers => absurd hintegers hdoubles⟩
    | _ => cases h
  · rintro ⟨rfl, hkind⟩
    cases n with
    | int m => rfl
    | double x =>
        refine if_neg fun hintegers => ?_
        obtain ⟨m, hm⟩ := hkind hintegers
        cases hm

theorem ThresholdKey.number?_eq_none : k.number? v = none ↔ ∀ n, ¬k.Takes v n := by
  simp only [← ThresholdKey.number?_eq_some]
  exact Option.eq_none_iff_forall_ne_some

theorem Double.ofInt?_eq (m : Int) :
    Double.ofInt? m = if (Double.ofInt m).isFinite then some (Double.ofInt m) else none := by
  unfold Double.ofInt?
  cases Double.ofInt m <;> rfl

theorem Number.isFinite_int {m : Int} : (Number.int m).IsFinite ↔ (Double.ofInt m).isFinite = true := by
  unfold Number.IsFinite Number.toDouble
  simp only [Double.ofInt?_eq]
  by_cases hfinite : (Double.ofInt m).isFinite = true
  · simp [hfinite]
  · simp [hfinite]

theorem Number.isFinite_double {x : Double} : (Number.double x).IsFinite ↔ x.isFinite = true := by
  simp [Number.IsFinite, Number.toDouble]

/-- A finite number has a real value. -/
theorem Number.IsFinite.exists_value (h : n.IsFinite) : ∃ r : ℝ, n.value? = some (r : EReal) := by
  cases n with
  | int m => exact ⟨m, rfl⟩
  | double x => exact Double.isFinite_iff.mp (Number.isFinite_double.mp h)

theorem checkFinite_eq_ok : checkFinite k v n = .ok () ↔ n.IsFinite := by
  cases n with
  | int m => simp [checkFinite, Number.isFinite_int, Double.ofInt?_eq]
  | double x => simp [checkFinite, Number.isFinite_double]

/-- The range of a threshold, by value. -/
theorem ThresholdKey.inRange_iff (h : n.IsFinite) : k.inRange n = true ↔ k.Bounds n := by
  obtain ⟨r, hr⟩ := h.exists_value
  have hleast : n.lt (.int k.least) = false ↔ (k.least : ℝ) ≤ r := by
    rw [← Bool.not_eq_true, Number.lt_iff, hr]
    simp [Number.value?]
  have htop : ∀ top : Int, (Number.int top).lt n = false ↔ r ≤ (top : ℝ) := by
    intro top
    rw [← Bool.not_eq_true, Number.lt_iff, hr]
    simp [Number.value?]
  unfold ThresholdKey.inRange ThresholdKey.Bounds
  rw [hr, Bool.and_eq_true, Bool.not_eq_true', Bool.not_eq_true', hleast]
  cases k.greatest? with
  | none => simp
  | some top => simp [htop]

/-- **A check accepts a value that keeps to the rules,** and takes the number as it is. -/
theorem checkThreshold_eq_ok_iff : checkThreshold k v = .ok n ↔ k.Takes v n ∧ n.IsFinite ∧ k.Bounds n := by
  rw [checkThreshold_eq_ok, ThresholdKey.number?_eq_some, checkFinite_eq_ok]
  constructor
  · rintro ⟨htakes, hfinite, hrange⟩
    exact ⟨htakes, hfinite, (ThresholdKey.inRange_iff hfinite).mp hrange⟩
  · rintro ⟨htakes, hfinite, hbounds⟩
    exact ⟨htakes, hfinite, (ThresholdKey.inRange_iff hfinite).mpr hbounds⟩

theorem exists_checkThreshold_eq_ok : (∃ n, checkThreshold k v = .ok n) ↔ k.Accepts v := by
  simp only [checkThreshold_eq_ok_iff, ThresholdKey.Accepts]

/-- **Every default passes its own check.** -/
theorem checkThreshold_default (k : ThresholdKey) : checkThreshold k k.default.toValue = .ok k.default := by
  refine checkThreshold_eq_ok.mpr ⟨?_, ?_, k.allows_default.range⟩
  · cases k <;> rfl
  · cases k <;> rfl

/-- A value that breaks a rule is turned down for it. -/
theorem ThresholdKey.Rejects.checkThreshold_eq (h : k.Rejects v e) : checkThreshold k v = .error e := by
  unfold checkThreshold
  cases h with
  | kind h => rw [ThresholdKey.number?_eq_none.mpr h]
  | tooLarge htakes h =>
      rw [Number.isFinite_int] at h
      rw [ThresholdKey.number?_eq_some.mpr htakes]
      simp [checkFinite, Double.ofInt?_eq, h, bind, Except.bind]
  | notFinite htakes h =>
      rw [Number.isFinite_double] at h
      rw [ThresholdKey.number?_eq_some.mpr htakes]
      simp [checkFinite, h, bind, Except.bind]
  | range htakes hfinite h =>
      rw [← ThresholdKey.inRange_iff hfinite] at h
      rw [ThresholdKey.number?_eq_some.mpr htakes]
      simp [checkFinite_eq_ok.mpr hfinite, h, bind, Except.bind, throw, throwThe, MonadExceptOf.throw]

/-- **Every value is accepted or breaks a rule.** -/
theorem ThresholdKey.accepts_or_rejects (k : ThresholdKey) (v : Value) : k.Accepts v ∨ ∃ e, k.Rejects v e := by
  by_cases htakes : ∃ n, k.Takes v n
  · obtain ⟨n, htakes⟩ := htakes
    by_cases hfinite : n.IsFinite
    · by_cases hbounds : k.Bounds n
      · exact .inl ⟨n, htakes, hfinite, hbounds⟩
      · exact .inr ⟨_, .range htakes hfinite hbounds⟩
    · cases n with
      | int m => exact .inr ⟨_, .tooLarge htakes hfinite⟩
      | double x => exact .inr ⟨_, .notFinite htakes hfinite⟩
  · exact .inr ⟨_, .kind (not_exists.mp htakes)⟩

end Checks

/-! ## Entries in order -/

/-- Every value under the name of a threshold keeps to the rules of the threshold. -/
def AllAccepted (entries : List (Value × Value)) : Prop :=
  ∀ (k : ThresholdKey) (v : Value), (.text k.name, v) ∈ entries → k.Accepts v

/-- The first entry that breaks a rule of its threshold is rejected with this error. -/
def FirstOffence (entries : List (Value × Value)) (e : SettingsError) : Prop :=
  ∃ (before : List (Value × Value)) (k : ThresholdKey) (v : Value) (after : List (Value × Value)),
    entries = before ++ (.text k.name, v) :: after ∧ AllAccepted before ∧ k.Rejects v e

section Entries

variable {key value : Value} {rest : List (Value × Value)} {t : Thresholds} {k : ThresholdKey} {e : SettingsError}

theorem readThresholds_cons_unknown (h : ThresholdKey.ofValue? key = none) :
    (readThresholds ((key, value) :: rest) t).2 = (readThresholds rest t).2 := by
  rw [readThresholds, h]

theorem readThresholds_cons_error (hkey : ThresholdKey.ofValue? key = some k) (h : checkThreshold k value = .error e) :
    (readThresholds ((key, value) :: rest) t).2 = .error e := by
  rw [readThresholds, hkey]
  simp only [h]

theorem readThresholds_cons_ok {n : Number} (hkey : ThresholdKey.ofValue? key = some k)
    (h : checkThreshold k value = .ok n) :
    (readThresholds ((key, value) :: rest) t).2 = (readThresholds rest (t.set k n)).2 := by
  rw [readThresholds, hkey]
  simp only [h]

/-- **An entry that names no threshold does not matter,** wherever it stands. -/
theorem readThresholds_unknown (hkey : ∀ k : ThresholdKey, key ≠ .text k.name) (value : Value)
    (front back : List (Value × Value)) (t : Thresholds) :
    (readThresholds (front ++ (key, value) :: back) t).2 = (readThresholds (front ++ back) t).2 := by
  induction front generalizing t with
  | nil => exact readThresholds_cons_unknown (ThresholdKey.ofValue?_eq_none.mpr hkey)
  | cons entry front ih =>
      obtain ⟨other, v⟩ := entry
      rw [List.cons_append, List.cons_append]
      cases hother : ThresholdKey.ofValue? other with
      | none => rw [readThresholds_cons_unknown hother, readThresholds_cons_unknown hother, ih]
      | some k =>
          cases hcheck : checkThreshold k v with
          | error e => rw [readThresholds_cons_error hother hcheck, readThresholds_cons_error hother hcheck]
          | ok n => rw [readThresholds_cons_ok hother hcheck, readThresholds_cons_ok hother hcheck, ih]

/-- One entry in front of others keeps to the rules unless it breaks those of the threshold that it names. -/
theorem allAccepted_cons : AllAccepted ((key, value) :: rest) ↔
    (∀ k : ThresholdKey, key = .text k.name → k.Accepts value) ∧ AllAccepted rest := by
  unfold AllAccepted
  constructor
  · intro h
    refine ⟨?_, fun k v hmem => h k v (List.mem_cons_of_mem _ hmem)⟩
    rintro k rfl
    exact h k value List.mem_cons_self
  · rintro ⟨hfirst, hrest⟩ k v hmem
    rcases List.mem_cons.mp hmem with heq | hmem
    · cases heq
      exact hfirst k rfl
    · exact hrest k v hmem

/-- Entries that keep to the rules are read, whatever comes after them. -/
theorem exists_readThresholds_append {front : List (Value × Value)} (h : AllAccepted front) (t : Thresholds) :
    ∃ read, ∀ back, (readThresholds (front ++ back) t).2 = (readThresholds back read).2 := by
  induction front generalizing t with
  | nil => exact ⟨t, fun back => rfl⟩
  | cons entry front ih =>
      obtain ⟨key, value⟩ := entry
      obtain ⟨hfirst, hfront⟩ := allAccepted_cons.mp h
      cases hkey : ThresholdKey.ofValue? key with
      | none =>
          obtain ⟨read, hread⟩ := ih hfront t
          refine ⟨read, fun back => ?_⟩
          rw [List.cons_append, readThresholds_cons_unknown hkey, hread]
      | some k =>
          have haccepts := hfirst k (ThresholdKey.ofValue?_eq_some.mp hkey)
          obtain ⟨n, hn⟩ := exists_checkThreshold_eq_ok.mpr haccepts
          obtain ⟨read, hread⟩ := ih hfront (t.set k n)
          refine ⟨read, fun back => ?_⟩
          rw [List.cons_append, readThresholds_cons_ok hkey hn, hread]

/-- **Entries that keep to the rules are read.** -/
theorem exists_readThresholds {entries : List (Value × Value)} (h : AllAccepted entries) (t : Thresholds) :
    ∃ read, (readThresholds entries t).2 = .ok read := by
  obtain ⟨read, hread⟩ := exists_readThresholds_append h t
  have hall := hread []
  rw [List.append_nil] at hall
  exact ⟨read, hall⟩

/-- **The first entry that breaks a rule decides.** -/
theorem FirstOffence.readThresholds_eq {entries : List (Value × Value)} (h : FirstOffence entries e) (t : Thresholds) :
    (readThresholds entries t).2 = .error e := by
  obtain ⟨before, k, v, after, rfl, hbefore, hrejects⟩ := h
  obtain ⟨read, hread⟩ := exists_readThresholds_append hbefore t
  rw [hread]
  exact readThresholds_cons_error (ThresholdKey.ofValue?_eq_some.mpr rfl) hrejects.checkThreshold_eq

/-- Entries keep to the rules, or there is a first one that does not. -/
theorem allAccepted_or_firstOffence (entries : List (Value × Value)) :
    AllAccepted entries ∨ ∃ e, FirstOffence entries e := by
  induction entries with
  | nil => exact .inl fun k v hmem => absurd hmem List.not_mem_nil
  | cons entry rest ih =>
      obtain ⟨key, value⟩ := entry
      by_cases hfirst : ∀ k : ThresholdKey, key = .text k.name → k.Accepts value
      · rcases ih with hrest | ⟨e, before, k, v, after, rfl, hbefore, hrejects⟩
        · exact .inl (allAccepted_cons.mpr ⟨hfirst, hrest⟩)
        · exact .inr ⟨e, (key, value) :: before, k, v, after, rfl, allAccepted_cons.mpr ⟨hfirst, hbefore⟩, hrejects⟩
      · -- the entry in front breaks a rule, so nothing stands before the first offence
        obtain ⟨k, hk⟩ := not_forall.mp hfirst
        obtain ⟨rfl, hnot⟩ := Classical.not_imp.mp hk
        obtain ⟨e, hrejects⟩ := (k.accepts_or_rejects value).resolve_left hnot
        exact .inr ⟨e, [], k, value, rest, rfl, fun k v hmem => absurd hmem List.not_mem_nil, hrejects⟩

end Entries

/-! ## Workers and time limit -/

/-- There is no number of workers, or it is a positive integer. -/
def AllowsWorkers (v : Value) : Prop := v = .null ∨ ∃ n : Int, v = .int n ∧ 1 ≤ n

/-- There is no time limit, or it is a number above zero. -/
def AllowsTimeout (v : Value) : Prop :=
  v = .null ∨ ∃ (n : Number) (x : EReal), v = n.toValue ∧ n.value? = some x ∧ 0 < x

theorem readWorkers_cases (v : Value) :
    (AllowsWorkers v ∧ ∃ workers, readWorkers v = .ok workers) ∨
      (¬AllowsWorkers v ∧ readWorkers v = .error (.badWorkers v)) := by
  unfold AllowsWorkers
  cases v with
  | null => exact .inl ⟨.inl rfl, none, rfl⟩
  | int n =>
      by_cases hn : 1 ≤ n
      · exact .inl ⟨.inr ⟨n, rfl, hn⟩, some n.toNat, if_pos hn⟩
      · exact .inr ⟨by simp [hn], if_neg hn⟩
  | _ => exact .inr ⟨by simp, rfl⟩

theorem Number.zero_lt_iff {n : Number} : (Number.int 0).lt n = true ↔ ∃ x, n.value? = some x ∧ 0 < x := by
  rw [Number.lt_iff]
  simp [Number.value?]

theorem readTimeout_toValue (n : Number) :
    readTimeout n.toValue =
      if (Number.int 0).lt n = true then .ok (some n) else .error (.badTimeout n.toValue) := by
  cases n with
  | int m =>
      have hpositive : (Number.int 0).lt (.int m) = true ↔ 0 < m := by
        simp [Number.lt, Number.compare?, Int.compare_eq_lt]
      simp only [hpositive]
      rfl
  | double x =>
      have hpositive : (Number.int 0).lt (.double x) = (x.compareInt? 0 == some .gt) := by
        show ((x.compareInt? 0).map Ordering.swap == some .lt) = _
        rcases x.compareInt? 0 with _ | _ | _ | _ <;> rfl
      rw [hpositive]
      rfl

theorem readTimeout_cases (v : Value) :
    (AllowsTimeout v ∧ ∃ timeout, readTimeout v = .ok timeout) ∨
      (¬AllowsTimeout v ∧ readTimeout v = .error (.badTimeout v)) := by
  have hnumber : ∀ n : Number, (AllowsTimeout n.toValue ∧ ∃ timeout, readTimeout n.toValue = .ok timeout) ∨
      (¬AllowsTimeout n.toValue ∧ readTimeout n.toValue = .error (.badTimeout n.toValue)) := by
    intro n
    rw [readTimeout_toValue]
    by_cases hpositive : (Number.int 0).lt n = true
    · obtain ⟨x, hx, hlt⟩ := Number.zero_lt_iff.mp hpositive
      exact .inl ⟨.inr ⟨n, x, rfl, hx, hlt⟩, some n, if_pos hpositive⟩
    · refine .inr ⟨?_, if_neg hpositive⟩
      rintro (hnull | ⟨n', x, heq, hx, hlt⟩)
      · cases n <;> cases hnull
      · -- a value is the value of one number only
        have hsame : n = n' := by cases n <;> cases n' <;> cases heq <;> rfl
        subst hsame
        exact hpositive (Number.zero_lt_iff.mpr ⟨x, hx, hlt⟩)
  cases v with
  | null => exact .inl ⟨.inl rfl, none, rfl⟩
  | int m => exact hnumber (.int m)
  | float x => exact hnumber (.double x)
  | _ =>
      refine .inr ⟨?_, rfl⟩
      rintro (hnull | ⟨n, x, heq, _⟩)
      · cases hnull
      · cases n <;> cases heq

/-! ## Whole settings -/

/-- The first rule that settings break: one of a threshold, in the order of the entries, or else that for workers, or
    else that for the time limit. -/
inductive SettingsFault (entries : List (Value × Value)) (workers timeout : Value) : SettingsError → Prop
  | threshold {e : SettingsError} (h : FirstOffence entries e) : SettingsFault entries workers timeout e
  | workers (hentries : AllAccepted entries) (h : ¬AllowsWorkers workers) :
      SettingsFault entries workers timeout (.badWorkers workers)
  | timeout (hentries : AllAccepted entries) (hworkers : AllowsWorkers workers) (h : ¬AllowsTimeout timeout) :
      SettingsFault entries workers timeout (.badTimeout timeout)

section Whole

variable {entries : List (Value × Value)} {workers timeout : Value} {e : SettingsError}

/-- Settings are read by reading the entries, and then the rest. -/
theorem Settings.read_entries {raw : RawSettings} (h : thresholdEntries raw.thresholds = .ok entries) :
    (Settings.read raw).2 = (readThresholds entries .defaults).2 >>= finishSettings raw := by
  unfold Settings.read
  rw [h]
  dsimp only
  rcases readThresholds entries .defaults with ⟨notices, e | t⟩
  · rfl
  · simp only [bind, Except.bind]
    cases finishSettings raw t <;> rfl

theorem finishSettings_of_workers {raw : RawSettings} (hworkers : readWorkers raw.workers = .error e) (t : Thresholds) :
    finishSettings raw t = .error e := by
  unfold finishSettings
  rw [hworkers]
  rfl

theorem finishSettings_of_timeout {raw : RawSettings} {count : Option Nat}
    (hworkers : readWorkers raw.workers = .ok count) (htimeout : readTimeout raw.timeout = .error e)
    (t : Thresholds) : finishSettings raw t = .error e := by
  unfold finishSettings
  rw [hworkers, htimeout]
  rfl

/-- **Settings that keep to all rules are accepted.** -/
theorem Settings.exists_read (hentries : AllAccepted entries) (hworkers : AllowsWorkers workers)
    (htimeout : AllowsTimeout timeout) (workspace : String) (prune : Value) :
    ∃ settings, (Settings.read ⟨.text workspace, .map entries, workers, timeout, prune⟩).2 = .ok settings := by
  obtain ⟨t, ht⟩ := exists_readThresholds hentries .defaults
  obtain ⟨_, count, hcount⟩ := (readWorkers_cases workers).resolve_right fun h => h.1 hworkers
  obtain ⟨_, limit, hlimit⟩ := (readTimeout_cases timeout).resolve_right fun h => h.1 htimeout
  refine ⟨⟨Path.parse workspace, t, count, limit, prune.truthy⟩, ?_⟩
  rw [Settings.read_entries rfl, ht]
  show finishSettings _ t = _
  unfold finishSettings
  rw [hcount, hlimit]
  rfl

/-- **Settings that break a rule are rejected for the first one.** -/
theorem SettingsFault.read_eq (h : SettingsFault entries workers timeout e) (workspace : String) (prune : Value) :
    (Settings.read ⟨.text workspace, .map entries, workers, timeout, prune⟩).2 = .error e := by
  rw [Settings.read_entries rfl]
  cases h with
  | threshold hoffence =>
      rw [hoffence.readThresholds_eq]
      rfl
  | workers hentries hnot =>
      obtain ⟨t, ht⟩ := exists_readThresholds hentries .defaults
      rw [ht]
      exact finishSettings_of_workers ((readWorkers_cases workers).resolve_left fun h => hnot h.1).2 t
  | timeout hentries hworkers hnot =>
      obtain ⟨t, ht⟩ := exists_readThresholds hentries .defaults
      obtain ⟨_, count, hcount⟩ := (readWorkers_cases workers).resolve_right fun h => h.1 hworkers
      rw [ht]
      exact finishSettings_of_timeout hcount ((readTimeout_cases timeout).resolve_left fun h => hnot h.1).2 t

/-- Settings keep to all rules, or there is a first one that they break. -/
theorem allowed_or_settingsFault (entries : List (Value × Value)) (workers timeout : Value) :
    (AllAccepted entries ∧ AllowsWorkers workers ∧ AllowsTimeout timeout) ∨
      ∃ e, SettingsFault entries workers timeout e := by
  rcases allAccepted_or_firstOffence entries with hentries | ⟨e, hoffence⟩
  · by_cases hworkers : AllowsWorkers workers
    · by_cases htimeout : AllowsTimeout timeout
      · exact .inl ⟨hentries, hworkers, htimeout⟩
      · exact .inr ⟨_, .timeout hentries hworkers htimeout⟩
    · exact .inr ⟨_, .workers hentries hworkers⟩
  · exact .inr ⟨e, .threshold hoffence⟩

/-- Settings are called invalid, unless there is an integer that no double is near. -/
theorem SettingsFault.kind_cases (h : SettingsFault entries workers timeout e) :
    e.kind = .invalid ∨ e.kind = .overflow ∧ ∃ (k : ThresholdKey) (m : Int), e = .tooLarge k ∧
      (.text k.name, .int m) ∈ entries ∧ ¬(Number.int m).IsFinite := by
  cases h with
  | threshold hoffence =>
      obtain ⟨before, k, v, after, rfl, _, hrejects⟩ := hoffence
      cases hrejects with
      | kind _ => exact .inl rfl
      | @tooLarge m htakes hnot =>
          obtain ⟨rfl, _⟩ := htakes
          exact .inr ⟨rfl, k, m, rfl, List.mem_append_right before List.mem_cons_self, hnot⟩
      | notFinite _ _ => exact .inl rfl
      | range _ _ _ => exact .inl rfl
  | workers _ _ => exact .inl rfl
  | timeout _ _ _ => exact .inl rfl

/-- The thresholds of accepted settings keep to their bounds. -/
theorem Settings.read_bounds {raw : RawSettings} {settings : Settings} (h : (Settings.read raw).2 = .ok settings)
    (k : ThresholdKey) : k.Bounds (settings.thresholds.get k) := by
  have hchecked : ∀ {k given n}, checkThreshold k given = .ok n → k.Bounds n := fun hcheck =>
    (checkThreshold_eq_ok_iff.mp hcheck).2.2
  exact Settings.read_forall hchecked (fun k => hchecked (checkThreshold_default k)) h k

end Whole

/-- **Which settings are accepted, and why others are not.** Settings with a path for a workspace and a map of
    thresholds are accepted exactly when each value under the name of a threshold keeps to its rules, and workers and
    time limit to theirs. Then every threshold has a real value within its bounds. Otherwise they are rejected for the
    first rule that they break, and are called invalid unless that is about an integer that no double is near. An entry
    that names no threshold changes nothing of this, wherever it stands. -/
theorem settings_accepted_iff (workspace : String) (entries : List (Value × Value)) (workers timeout prune : Value) :
    let outcome (entries : List (Value × Value)) :=
      (Settings.read ⟨.text workspace, .map entries, workers, timeout, prune⟩).2
    ((∃ settings, outcome entries = .ok settings) ↔
      AllAccepted entries ∧ AllowsWorkers workers ∧ AllowsTimeout timeout) ∧
    (∀ settings, outcome entries = .ok settings →
      ∃ r : ThresholdKey → ℝ, (∀ k, (settings.thresholds.get k).value? = some (r k : EReal)) ∧
        1 ≤ r .minLines ∧ r .similarityThreshold ≤ 1 ∧ ∀ k, 0 ≤ r k) ∧
    (∀ e, outcome entries = .error e ↔ SettingsFault entries workers timeout e) ∧
    (∀ e, outcome entries = .error e →
      e.kind = .invalid ∨ e.kind = .overflow ∧ ∃ (k : ThresholdKey) (m : Int), e = .tooLarge k ∧
        (.text k.name, .int m) ∈ entries ∧ ¬(Number.int m).IsFinite) ∧
    ∀ (front back : List (Value × Value)) (key value : Value), entries = front ++ (key, value) :: back →
      (∀ k : ThresholdKey, key ≠ .text k.name) → outcome entries = outcome (front ++ back) := by
  intro outcome
  -- rules and faults leave no third case, so each outcome is told by the one that holds
  have hfault : ∀ e, outcome entries = .error e → SettingsFault entries workers timeout e := by
    intro e h
    rcases allowed_or_settingsFault entries workers timeout with ⟨hentries, hworkers, htimeout⟩ | ⟨e', hfault⟩
    · obtain ⟨settings, hok⟩ := Settings.exists_read hentries hworkers htimeout workspace prune
      cases h.symm.trans hok
    · cases h.symm.trans (hfault.read_eq workspace prune)
      exact hfault
  refine ⟨⟨?_, ?_⟩, ?_, fun e => ⟨hfault e, fun h => h.read_eq workspace prune⟩, ?_, ?_⟩
  · rintro ⟨settings, hok⟩
    refine (allowed_or_settingsFault entries workers timeout).resolve_right ?_
    rintro ⟨e, hfault⟩
    cases hok.symm.trans (hfault.read_eq workspace prune)
  · rintro ⟨hentries, hworkers, htimeout⟩
    exact Settings.exists_read hentries hworkers htimeout workspace prune
  · intro settings hok
    choose r hvalue hleast htop using Settings.read_bounds hok
    refine ⟨r, hvalue, ?_, ?_, ?_⟩
    · simpa [ThresholdKey.least] using hleast .minLines
    · exact_mod_cast htop .similarityThreshold 1 rfl
    · intro k
      have hnonneg : (0 : Int) ≤ k.least := by cases k <;> decide
      exact le_trans (by exact_mod_cast hnonneg) (hleast k)
  · intro e h
    exact (hfault e h).kind_cases
  · rintro front back key value rfl hkey
    show (Settings.read _).2 = (Settings.read _).2
    rw [Settings.read_entries rfl, Settings.read_entries rfl, readThresholds_unknown hkey]
    rfl

/-- Settings with an entry that names no threshold, which are accepted; and settings with two offences and bad workers,
    which are rejected for the first of these. -/
theorem settings_accepted_iff_first_offence :
    let good : List (Value × Value) := [(.text "minLines", .int 3), (.text "extra", .null), (.text "minTokens", .int 0)]
    let known : List (Value × Value) := [(.text "minLines", .int 3), (.text "minTokens", .int 0)]
    let bad : List (Value × Value) := [(.text "minTokens", .bool true), (.text "minLines", .int 0)]
    AllAccepted good ∧
      (∃ settings, (Settings.read ⟨.text "ws", .map good, .int 2, .null, .bool true⟩).2 = .ok settings ∧
        (∃ r : ThresholdKey → ℝ, (∀ k, (settings.thresholds.get k).value? = some (r k : EReal)) ∧ 1 ≤ r .minLines) ∧
        (Settings.read ⟨.text "ws", .map known, .int 2, .null, .bool true⟩).2 = .ok settings) ∧
      SettingsFault bad (.int 0) .null (.wrongKind .minTokens (.bool true)) := by
  intro good known bad
  obtain ⟨haccepted, hbounds, _, _, hunknown⟩ := settings_accepted_iff "ws" good (.int 2) .null (.bool true)
  obtain ⟨_, _, hfault, _, _⟩ := settings_accepted_iff "ws" bad (.int 0) .null (.bool true)
  obtain ⟨settings, hok⟩ : ∃ settings,
      (Settings.read ⟨.text "ws", .map good, .int 2, .null, .bool true⟩).2 = .ok settings := ⟨_, rfl⟩
  obtain ⟨r, hvalue, hlines, _⟩ := hbounds settings hok
  have hextra : ∀ k : ThresholdKey, Value.text "extra" ≠ .text k.name := by
    intro k h
    cases k <;> exact absurd (Value.text.inj h) (by decide)
  have hknown := hunknown [(.text "minLines", .int 3)] [(.text "minTokens", .int 0)] (.text "extra") .null rfl hextra
  exact ⟨(haccepted.mp ⟨settings, hok⟩).1, ⟨settings, hok, ⟨r, hvalue, hlines⟩, hknown.symm.trans hok⟩,
    (hfault _).mp rfl⟩

end CodeCensus
