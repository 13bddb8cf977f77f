import CodeCensus.Calendar.Timestamp
import CodeCensus.Proofs.DoubleOrder
import CodeCensus.Tree.File

/-!
# Times that are dates

A modification time is a number of nanoseconds, turned into seconds as a double and from there into a date. Years
run from 1 to 9999, so not every time has a date. The times that have one are all those between two bounds. The
bounds are not on full seconds: near the ends of the calendar neighbouring doubles are several microseconds apart,
and the date is rounded to microseconds, so a time shortly before the year 1 rounds into it and a time shortly
before the year 10000 rounds out of the calendar.

## Contents
- `Date.ofDayNumber_year`, `Date.one_le_year`, `Date.year_le` — the days of the years 1 to 9999;
- `momentOfSeconds_eq_ok` — the seconds that are a date;
- `secondsOf_le`, `le_secondsOf` — bounds on nanoseconds are bounds on seconds;
- `dated_iff` — the times that are dates.
-/

namespace CodeCensus

/-! ## Days and seconds of the calendar -/

theorem yearOfEra_bounds {day year : Nat} (hday : day < 146097)
    (hyear : year = (day - day / 1460 + day / 36524 - day / 146096) / 365) :
    year ≤ 399 ∧ (year = 0 ↔ day < 365) ∧ (year = 399 ↔ 145731 ≤ day) := by
  omega

/-- The years of an era begin in March, so January begins with the 306th day after. -/
theorem month_le_two_iff {dayOfYear m : Nat} (hm : m = (5 * dayOfYear + 2) / 153) (h : dayOfYear ≤ 366) :
    (if m < 10 then m + 3 else m - 9) ≤ 2 ↔ 306 ≤ dayOfYear := by
  split <;> omega

/-- The year of a day is that of its era, or from January on the next. -/
theorem Date.ofDayNumber_year (days : Int) :
    ∃ (era late : Int) (day year dayOfYear : Nat), days + 719468 = era * 146097 + day ∧ day < 146097 ∧
      year = (day - day / 1460 + day / 36524 - day / 146096) / 365 ∧
      dayOfYear = day - (365 * year + year / 4 - year / 100) ∧
      (Date.ofDayNumber days).1 = era * 400 + year + late ∧ 0 ≤ late ∧ late ≤ 1 ∧
      (dayOfYear ≤ 366 → (late = 1 ↔ 306 ≤ dayOfYear)) := by
  unfold Date.ofDayNumber
  simp only [Int.fdiv_eq_ediv_of_nonneg _ (show (0 : Int) ≤ 146097 by decide)]
  generalize hday : (days + 719468 - (days + 719468) / 146097 * 146097).toNat = day
  have hdays : days + 719468 = (days + 719468) / 146097 * 146097 + day ∧ day < 146097 := by omega
  generalize hyear : (day - day / 1460 + day / 36524 - day / 146096) / 365 = year
  generalize hrest : day - (365 * year + year / 4 - year / 100) = dayOfYear
  generalize hm : (5 * dayOfYear + 2) / 153 = m
  refine ⟨(days + 719468) / 146097, if (if m < 10 then m + 3 else m - 9) ≤ 2 then 1 else 0, day, year, dayOfYear,
    hdays.1, hdays.2, hyear.symm, hrest.symm, ?_⟩
  by_cases hearly : (if m < 10 then m + 3 else m - 9) ≤ 2
  · rw [if_pos hearly, if_pos hearly]
    exact ⟨by omega, by decide, by decide, fun h => iff_of_true rfl ((month_le_two_iff hm.symm h).mp hearly)⟩
  · rw [if_neg hearly, if_neg hearly]
    exact ⟨by omega, by decide, by decide, fun h =>
      iff_of_false (by decide) fun hlate => hearly ((month_le_two_iff hm.symm h).mpr hlate)⟩

theorem Date.one_le_year (days : Int) : 1 ≤ (Date.ofDayNumber days).1 ↔ -719162 ≤ days := by
  obtain ⟨era, late, day, year, dayOfYear, hdays, hday, hyear, hrest, hresult, hlow, hhigh, hlate⟩ :=
    Date.ofDayNumber_year days
  obtain ⟨hlast, hzero, -⟩ := yearOfEra_bounds hday hyear
  clear hyear
  rw [hresult]
  -- the year 1 begins within the first year of its era
  rcases Nat.eq_zero_or_pos year with rfl | hpos
  · have hstart := hlate (by omega)
    omega
  · omega

theorem Date.year_le (days : Int) : (Date.ofDayNumber days).1 ≤ 9999 ↔ days ≤ 2932896 := by
  obtain ⟨era, late, day, year, dayOfYear, hdays, hday, hyear, hrest, hresult, hlow, hhigh, hlate⟩ :=
    Date.ofDayNumber_year days
  obtain ⟨hlast, -, hfinal⟩ := yearOfEra_bounds hday hyear
  clear hyear
  rw [hresult]
  -- the year 9999 ends within the last year of its era
  by_cases hera : year = 399
  · subst hera
    have hend := hlate (by omega)
    omega
  · omega

/-- The first second of the year 1, counted from 1970. -/
def firstSecond : Int := -62135596800

/-- The first second after the year 9999. -/
def endSecond : Int := 253402300800

theorem momentOf_eq_ok (seconds micros : Int) :
    (∃ m, momentOf seconds micros = .ok m) ↔ firstSecond ≤ seconds ∧ seconds < endSecond := by
  have hfirst := Date.one_le_year (Int.fdiv seconds 86400)
  have hlast := Date.year_le (Int.fdiv seconds 86400)
  have hdays : Int.fdiv seconds 86400 = seconds / 86400 := Int.fdiv_eq_ediv_of_nonneg _ (by decide)
  unfold momentOf firstSecond endSecond
  simp only [Bool.or_eq_true, decide_eq_true_eq]
  split_ifs <;> simp <;> omega

/-- **Finite seconds are a date exactly when their whole part lies in the calendar.** -/
theorem momentOfSeconds_eq_ok {x : Double} (hx : x.isFinite = true) :
    (∃ m, momentOfSeconds x = .ok m) ↔
      firstSecond ≤ (splitSeconds x).1 ∧ (splitSeconds x).1 < endSecond := by
  cases x <;> cases hx
  rename_i s m e
  rw [← momentOf_eq_ok _ (splitSeconds (.finite s m e)).2]
  unfold momentOfSeconds
  simp only [Bool.or_eq_true, decide_eq_true_eq]
  split
  next hlimit =>
    -- seconds outside the limit of all clocks are outside the calendar too
    rw [momentOf_eq_ok]
    unfold secondsLimit firstSecond endSecond at *
    simp
    omega
  next => rfl

theorem timestampText_eq_ok {x : Double} :
    (∃ text, timestampText x = .ok text) ↔ ∃ m, momentOfSeconds x = .ok m := by
  unfold timestampText
  cases momentOfSeconds x <;> simp [bind, Except.bind, pure, Except.pure]

/-! ## Seconds taken apart -/

/-- The part of a number of seconds after the given whole ones, in microseconds. -/
def microsAfter (whole : Int) (x : Double) : Double := (x - Double.ofInt whole) * Double.ofInt 1000000

/-- The whole seconds go up when the rest rounds to a full second, and down when it is negative. -/
theorem splitSeconds_fst {x : Double} {whole : Int} (h : x.truncate? = some whole) :
    (splitSeconds x).1 = if 1000000 ≤ (microsAfter whole x).roundInt then whole + 1
      else if (microsAfter whole x).roundInt < 0 then whole - 1 else whole := by
  unfold splitSeconds microsAfter
  simp only [h]
  split_ifs <;> rfl

theorem ofInt_million : Double.ofInt 1000000 = .finite false 8589934592000000 (-33) := rfl

theorem microsAfter_mono {x y : Double} {whole : Int} (hwhole : (Double.ofInt whole).isFinite = true)
    (h : x.le y = true) : (microsAfter whole x).le (microsAfter whole y) = true := by
  unfold microsAfter
  rw [ofInt_million]
  exact Double.mul_mono (Double.sub_mono h hwhole) (by decide) _

/-- Nothing comes after the whole seconds in these seconds themselves. -/
theorem microsAfter_self {whole : Int} (hwhole : (Double.ofInt whole).isFinite = true) :
    (microsAfter whole (.ofInt whole)).roundInt = 0 := by
  have hdifference : (Double.ofInt whole - Double.ofInt whole).value? = some 0 := by
    cases h : Double.ofInt whole <;> rw [h] at hwhole <;> cases hwhole
    rw [Double.finite_sub_value?, sub_self, Double.rounded_zero]
  have hmicros : (microsAfter whole (.ofInt whole)).value? = some ((0 : ℝ) : EReal) := by
    unfold microsAfter
    rw [ofInt_million, Double.mul_finite_value? _ (by decide), hdifference]
    simp
  rw [Double.roundInt_of_value? hmicros]
  exact_mod_cast halfEven_intCast 0

/-- The second and its neighbours are exact as doubles, and taking it away from them overflows nowhere. -/
structure ExactSecond (whole : Int) : Prop where
  finite : (Double.ofInt whole).isFinite = true
  part : (Double.ofInt whole).truncate? = some whole
  exact : (Number.int whole).le (.double (.ofInt whole)) = true
  below : (Number.double (.ofInt (whole - 1))).le (.int (whole - 1)) = true
  above : (Number.int (whole + 1)).le (.double (.ofInt (whole + 1))) = true
  finite_below : (microsAfter whole (.ofInt (whole - 1))).isFinite = true
  finite_above : (microsAfter whole (.ofInt (whole + 1))).isFinite = true

theorem ExactSecond.micros_isFinite {x : Double} {whole : Int} (h : ExactSecond whole)
    (hx : x.truncate? = some whole) : (microsAfter whole x).isFinite = true := by
  obtain ⟨hlow, hhigh⟩ := Double.between_of_truncate? hx
  have hbelow : (Double.ofInt (whole - 1)).le x = true := Number.le_trans h.below hlow
  have habove : x.le (.ofInt (whole + 1)) = true := Number.le_trans hhigh h.above
  exact Double.isFinite_of_between (microsAfter_mono h.finite hbelow) (microsAfter_mono h.finite habove)
    h.finite_below h.finite_above

/-- In the same second a larger number has no fewer microseconds. -/
theorem ExactSecond.micros_le {x y : Double} {whole : Int} (h : ExactSecond whole) (hxy : x.le y = true)
    (hx : x.truncate? = some whole) (hy : y.truncate? = some whole) :
    (microsAfter whole x).roundInt ≤ (microsAfter whole y).roundInt :=
  Double.roundInt_mono (microsAfter_mono h.finite hxy) (h.micros_isFinite hx) (h.micros_isFinite hy)

theorem ExactSecond.splitSeconds_le {x y : Double} {i j : Int} (h : ExactSecond j) (hxy : x.le y = true)
    (hx : x.truncate? = some i) (hy : y.truncate? = some j)
    (hmicros : (microsAfter j y).roundInt < 1000000) : (splitSeconds x).1 ≤ j := by
  rw [splitSeconds_fst hx]
  rcases (Double.truncate?_mono hxy hx hy).eq_or_lt with rfl | hlt
  · have hle := h.micros_le hxy hx hy
    split_ifs <;> omega
  · split_ifs <;> omega

theorem ExactSecond.le_splitSeconds {x y : Double} {i j : Int} (h : ExactSecond j) (hyx : y.le x = true)
    (hx : x.truncate? = some i) (hy : y.truncate? = some j)
    (hmicros : 0 ≤ (microsAfter j y).roundInt) : j ≤ (splitSeconds x).1 := by
  rw [splitSeconds_fst hx]
  rcases (Double.truncate?_mono hyx hy hx).eq_or_lt with rfl | hlt
  · have hle := h.micros_le hyx hy hx
    split_ifs <;> omega
  · split_ifs <;> omega

/-- Below zero the integer part is the next integer up, so a number below one in the second `j` may be in the
    second `j` itself or at most at the end of the one before. -/
theorem ExactSecond.splitSeconds_lt {x y : Double} {i j : Int} (h : ExactSecond j)
    (hbefore : ExactSecond (j - 1)) (hneg : j ≤ 0) (hxy : x.le y = true)
    (hx : x.truncate? = some i) (hy : y.truncate? = some j)
    (hmicros : (microsAfter j y).roundInt < 0) : (splitSeconds x).1 < j := by
  rcases (Double.truncate?_mono hxy hx hy).eq_or_lt with rfl | hlt
  · have hle := h.micros_le hxy hx hy
    rw [splitSeconds_fst hx]
    split_ifs <;> omega
  · have hint : (Number.int i).le (.int (j - 1)) = true := by
      refine Number.le_iff.mpr ⟨_, _, rfl, rfl, ?_⟩
      exact_mod_cast (by omega : i ≤ j - 1)
    have hle : x.le (.ofInt (j - 1)) = true :=
      Number.le_trans (Double.le_of_truncate?_neg hx (by omega)) (Number.le_trans hint hbefore.exact)
    have hsecond := hbefore.splitSeconds_le hle hx hbefore.part (by rw [microsAfter_self hbefore.finite]; decide)
    omega

/-! ## Nanoseconds as seconds -/

/-- Whole seconds and nanoseconds as seconds. -/
def secondsAt (whole rest : Int) : Double :=
  Double.ofInt whole + Double.ofDecimal false 1 (-9) * Double.ofInt rest

theorem secondsOf_eq (ns : Int) : secondsOf ns = secondsAt (ns / 1000000000) (ns % 1000000000) := by
  unfold secondsOf secondsAt
  rw [Int.fdiv_eq_ediv_of_nonneg _ (by decide), Int.fmod_eq_emod_of_nonneg _ (by decide)]

theorem nanos_mono {rest rest' : Int} (h : rest ≤ rest') :
    (Double.ofDecimal false 1 (-9) * Double.ofInt rest).le
      (Double.ofDecimal false 1 (-9) * Double.ofInt rest') = true := by
  have hunit : Double.ofDecimal false 1 (-9) = .finite false 4835703278458517 (-82) := rfl
  rw [hunit, Double.finite_mul_comm, Double.finite_mul_comm]
  exact Double.mul_mono (Double.ofInt_mono h) (by decide) _

theorem nanos_isFinite {rest : Int} (hlow : 0 ≤ rest) (hhigh : rest ≤ 999999999) :
    (Double.ofDecimal false 1 (-9) * Double.ofInt rest).isFinite = true :=
  Double.isFinite_of_between (nanos_mono hlow) (nanos_mono hhigh) rfl rfl

theorem secondsAt_mono {whole whole' rest rest' : Int} (hwhole : whole ≤ whole') (hrest : rest ≤ rest')
    (hlow : 0 ≤ rest) (hhigh : rest' ≤ 999999999) :
    (secondsAt whole rest).le (secondsAt whole' rest') = true :=
  Double.add_mono (Double.ofInt_mono hwhole) (nanos_mono hrest)
    (nanos_isFinite hlow (hrest.trans hhigh)) (nanos_isFinite (hlow.trans hrest) hhigh)

/-- A bound on nanoseconds from above; `hstep` says that rounding does not lift the end of the second before
    beyond the bound. -/
theorem secondsOf_le {ns : Int} (whole rest : Int) (h : ns ≤ whole * 1000000000 + rest) (hlow : 0 ≤ rest)
    (hhigh : rest ≤ 999999999) (hstep : (secondsAt (whole - 1) 999999999).le (secondsAt whole rest) = true) :
    (secondsOf ns).le (secondsAt whole rest) = true := by
  rw [secondsOf_eq]
  by_cases hwhole : ns / 1000000000 = whole
  · exact secondsAt_mono hwhole.le (by omega) (by omega) hhigh
  · have hbefore : (secondsAt (ns / 1000000000) (ns % 1000000000)).le (secondsAt (whole - 1) 999999999) = true :=
      secondsAt_mono (by omega) (by omega) (by omega) le_rfl
    exact Double.le_trans hbefore hstep

theorem le_secondsOf {ns : Int} (whole rest : Int) (h : whole * 1000000000 + rest ≤ ns) (hlow : 0 ≤ rest)
    (hhigh : rest ≤ 999999999) (hstep : (secondsAt whole rest).le (secondsAt (whole + 1) 0) = true) :
    (secondsAt whole rest).le (secondsOf ns) = true := by
  rw [secondsOf_eq]
  by_cases hwhole : ns / 1000000000 = whole
  · exact secondsAt_mono hwhole.ge (by omega) hlow (by omega)
  · have hafter : (secondsAt (whole + 1) 0).le (secondsAt (ns / 1000000000) (ns % 1000000000)) = true :=
      secondsAt_mono (by omega) (by omega) le_rfl (by omega)
    exact Double.le_trans hstep hafter

/-! ## Times that are dates -/

/-- The first time in nanoseconds that is a date: 3814 nanoseconds before the year 1. -/
def firstDated : Int := -62135596800000003814

/-- The last time in nanoseconds that is a date: 15259 nanoseconds before the year 10000. -/
def lastDated : Int := 253402300799999984741

theorem exactSecond_firstSecond : ExactSecond firstSecond := by constructor <;> rfl

theorem exactSecond_before_firstSecond : ExactSecond (firstSecond - 1) := by constructor <;> rfl

theorem exactSecond_endSecond : ExactSecond endSecond := by constructor <;> rfl

theorem exactSecond_before_endSecond : ExactSecond (endSecond - 1) := by constructor <;> rfl

/-- The seconds inside the bounds and just after them do not round beyond the next full second. -/
theorem secondsAt_le_next :
    (secondsAt (-62135596801) 999996186).le (secondsAt (-62135596801 + 1) 0) = true ∧
      (secondsAt 253402300799 999984742).le (secondsAt (253402300799 + 1) 0) = true := by
  decide +kernel

section Bounds

variable {ns : Int}

-- The two bounds and their neighbours outside, each as whole seconds and the nanoseconds after them.

theorem secondsOf_before_firstDated (h : ns < firstDated) :
    (secondsOf ns).le (secondsAt (-62135596801) 999996185) = true := by
  unfold firstDated at h
  exact secondsOf_le _ _ (by omega) (by decide) (by decide) rfl

theorem firstDated_le_secondsOf (h : firstDated ≤ ns) :
    (secondsAt (-62135596801) 999996186).le (secondsOf ns) = true := by
  unfold firstDated at h
  exact le_secondsOf _ _ (by omega) (by decide) (by decide) secondsAt_le_next.1

theorem secondsOf_le_lastDated (h : ns ≤ lastDated) :
    (secondsOf ns).le (secondsAt 253402300799 999984741) = true := by
  unfold lastDated at h
  exact secondsOf_le _ _ (by omega) (by decide) (by decide) rfl

theorem secondsOf_after_lastDated (h : lastDated < ns) :
    (secondsAt 253402300799 999984742).le (secondsOf ns) = true := by
  unfold lastDated at h
  exact le_secondsOf _ _ (by omega) (by decide) (by decide) secondsAt_le_next.2

theorem firstSecond_le_iff (hx : (secondsOf ns).isFinite = true) :
    firstSecond ≤ (splitSeconds (secondsOf ns)).1 ↔ firstDated ≤ ns := by
  obtain ⟨i, hi⟩ := Double.exists_truncate? hx
  constructor
  · intro h
    by_contra hearly
    -- the microseconds before the year 1 round to one, and no longer to none
    have hlt := exactSecond_firstSecond.splitSeconds_lt exactSecond_before_firstSecond (by decide)
      (secondsOf_before_firstDated (not_le.mp hearly)) hi rfl (by decide)
    omega
  · intro h
    exact exactSecond_firstSecond.le_splitSeconds (firstDated_le_secondsOf h) hi rfl (by decide)

theorem lt_endSecond_iff (hx : (secondsOf ns).isFinite = true) :
    (splitSeconds (secondsOf ns)).1 < endSecond ↔ ns ≤ lastDated := by
  obtain ⟨i, hi⟩ := Double.exists_truncate? hx
  constructor
  · intro h
    by_contra hlate
    -- the double next to these nanoseconds is already the first second of the year 10000
    have hend := exactSecond_endSecond.le_splitSeconds (secondsOf_after_lastDated (not_le.mp hlate)) hi rfl
      (by decide)
    omega
  · intro h
    have hend := exactSecond_before_endSecond.splitSeconds_le (secondsOf_le_lastDated h) hi rfl (by decide)
    omega

theorem secondsOf_isFinite (hfirst : firstDated ≤ ns) (hlast : ns ≤ lastDated) :
    (secondsOf ns).isFinite = true :=
  Double.isFinite_of_between (firstDated_le_secondsOf hfirst) (secondsOf_le_lastDated hlast) rfl rfl

end Bounds

/-- **A time in nanoseconds is a date exactly when it lies between the two bounds.** -/
theorem dated_iff (ns : Int) :
    (∃ text, timestampText (secondsOf ns) = .ok text) ↔ firstDated ≤ ns ∧ ns ≤ lastDated := by
  rw [timestampText_eq_ok]
  by_cases hx : (secondsOf ns).isFinite = true
  · rw [momentOfSeconds_eq_ok hx, firstSecond_le_iff hx, lt_endSecond_iff hx]
  · refine iff_of_false ?_ fun h => hx (secondsOf_isFinite h.1 h.2)
    rintro ⟨m, hm⟩
    cases hseconds : secondsOf ns with
    | finite _ _ _ => exact hx (by rw [hseconds]; rfl)
    | infinite _ =>
        rw [hseconds] at hm
        cases hm
    | nan _ =>
        rw [hseconds] at hm
        cases hm

end CodeCensus
