import CodeCensus.Proofs.NumberValue
import Mathlib.Data.EReal.Inv

/-!
# The order of doubles

Sums, products with a positive double, the nearest integer and the integer part all go with the order of the
doubles they are taken of. Each operation is exact arithmetic on values followed by one rounding, and rounding
never reverses an order; so a bound on a double passes through a computation to a bound on its result, and the
bound itself can be evaluated.

## Contents
- `Double.le_iff_value?`, `Double.isFinite_of_between` — the order by value;
- `Double.ofInt_mono`, `Double.add_mono`, `Double.mul_mono` — arithmetic goes with the order;
- `Double.roundInt_mono`, `Double.truncate?_mono` — so do the integers near a double;
- `Double.between_of_truncate?` — how far a double is from its integer part.
-/

namespace CodeCensus

theorem Number.le_trans {a b c : Number} (hab : a.le b = true) (hbc : b.le c = true) : a.le c = true := by
  obtain ⟨x, y, hx, hy, hxy⟩ := Number.le_iff.mp hab
  obtain ⟨y', z, hy', hz, hyz⟩ := Number.le_iff.mp hbc
  obtain rfl : y = y' := Option.some.inj (hy.symm.trans hy')
  exact Number.le_iff.mpr ⟨x, z, hx, hz, hxy.trans hyz⟩

/-- Rounding to an integer treats both signs alike. -/
theorem halfEven_neg (x : ℝ) : halfEven (-x) = -halfEven x := by
  by_cases hzero : Int.fract x = 0
  · obtain ⟨k, rfl⟩ := Int.fract_eq_zero_iff.mp hzero
    rw [← Int.cast_neg, halfEven_intCast, halfEven_intCast]
  · have hfract : Int.fract (-x) = 1 - Int.fract x := Int.fract_neg hzero
    have hfloor : ⌊-x⌋ = -⌊x⌋ - 1 := by
      have hsum := Int.floor_add_fract (-x)
      have hsum' := Int.floor_add_fract x
      have hcast : ((⌊-x⌋ : ℤ) : ℝ) = ((-⌊x⌋ - 1 : ℤ) : ℝ) := by
        push_cast
        linarith
      exact_mod_cast hcast
    unfold halfEven
    rw [hfract, hfloor]
    rcases lt_trichotomy (Int.fract x) (1 / 2) with hbelow | hhalf | habove
    · rw [if_neg (by linarith), if_pos (by linarith), if_pos hbelow]
      omega
    · -- halfway both choices fall on the even neighbour
      rw [if_neg (by linarith), if_neg (by linarith), if_neg (by linarith), if_neg (by linarith)]
      omega
    · rw [if_pos (by linarith), if_neg (by linarith), if_pos habove]
      omega

namespace Double

/-! ## Order -/

theorem le_iff_value? {x y : Double} :
    x.le y = true ↔ ∃ a b, x.value? = some a ∧ y.value? = some b ∧ a ≤ b :=
  Number.le_iff (a := .double x) (b := .double y)

theorem le_trans {x y z : Double} (hxy : x.le y = true) (hyz : y.le z = true) : x.le z = true :=
  Number.le_trans (a := .double x) (b := .double y) (c := .double z) hxy hyz

theorem finite_le_self (s : Bool) (m : Nat) (e : ℤ) : (finite s m e).le (finite s m e) = true :=
  le_iff_value?.mpr ⟨_, _, rfl, rfl, le_rfl⟩

theorem isFinite_iff {x : Double} : x.isFinite = true ↔ ∃ r : ℝ, x.value? = some (r : EReal) := by
  cases x with
  | nan _ => simp [isFinite, value?]
  | infinite s => cases s <;> simp [isFinite, value?]
  | finite s m e => simp [isFinite, value?]

/-- Between two finite doubles every double is finite. -/
theorem isFinite_of_between {x y z : Double} (hxy : x.le y = true) (hyz : y.le z = true)
    (hx : x.isFinite = true) (hz : z.isFinite = true) : y.isFinite = true := by
  obtain ⟨r, hr⟩ := isFinite_iff.mp hx
  obtain ⟨t, ht⟩ := isFinite_iff.mp hz
  obtain ⟨a, b, ha, hb, hab⟩ := le_iff_value?.mp hxy
  obtain ⟨b', c, hb', hc, hbc⟩ := le_iff_value?.mp hyz
  obtain rfl : b = b' := Option.some.inj (hb.symm.trans hb')
  obtain rfl : (r : EReal) = a := Option.some.inj (hr.symm.trans ha)
  obtain rfl : (t : EReal) = c := Option.some.inj (ht.symm.trans hc)
  -- between two reals there is neither infinity
  refine isFinite_iff.mpr ⟨b.toReal, ?_⟩
  rw [hb, EReal.coe_toReal]
  · rintro rfl
    exact EReal.coe_ne_top t (top_le_iff.mp hbc)
  · rintro rfl
    exact EReal.coe_ne_bot r (le_bot_iff.mp hab)

/-! ## Arithmetic -/

theorem finiteValue_eq (s : Bool) (m : Nat) (e : ℤ) :
    finiteValue s m e = if s then -((m : ℝ) * 2 ^ e) else (m : ℝ) * 2 ^ e := by
  cases s <;> simp [finiteValue, signedMantissa]

@[simp] theorem rounded_zero : rounded 0 = 0 := by simp [rounded]

@[simp] theorem roundedExt_zero : roundedExt 0 = 0 := by
  rw [← EReal.coe_zero, roundedExt_coe, rounded_zero, EReal.coe_zero]

/-- It does not matter whether a size gets its sign before it is rounded or after. -/
theorem signed_roundedSize (s : Bool) {x : ℝ} (hx : 0 ≤ x) :
    (if s then -roundedSize x else roundedSize x) = rounded (if s then -x else x) := by
  unfold rounded
  cases s with
  | false => simp [not_lt.mpr hx]
  | true =>
      rcases hx.eq_or_lt with rfl | hpos
      · -- minus zero is not below zero, and rounds to zero either way
        simp
      · simp [hpos]

/-- **An integer as a double is the integer, rounded.** -/
theorem ofInt_value? (n : ℤ) : (ofInt n).value? = some (rounded n) := by
  have hsize : (0 : ℝ) ≤ (n.natAbs : ℝ) / (1 : ℕ) := by positivity
  have hsigned : (if decide (n < 0) = true then -((n.natAbs : ℝ) / (1 : ℕ))
      else (n.natAbs : ℝ) / (1 : ℕ)) = n := by
    rw [Nat.cast_one, div_one, Nat.cast_natAbs]
    by_cases hn : n < 0
    · simp [hn, abs_of_neg hn]
    · simp [hn, abs_of_nonneg (not_lt.mp hn)]
  unfold ofInt
  rw [ofRatio_value? _ _ Nat.one_pos, signed_roundedSize _ hsize, hsigned]

theorem ofInt_mono {m n : ℤ} (h : m ≤ n) : (ofInt m).le (ofInt n) = true :=
  le_iff_value?.mpr ⟨_, _, ofInt_value? m, ofInt_value? n, rounded_mono (by exact_mod_cast h)⟩

/-- **A sum with a finite double is the exact sum, rounded once.** -/
theorem add_finite_value? (x : Double) (s : Bool) (m : Nat) (e : ℤ) :
    (x + finite s m e).value? = x.value?.map fun a => roundedExt (a + finiteValue s m e) := by
  cases x with
  | nan _ => rfl
  | infinite t =>
      show (infinite t).value? = _
      cases t <;> simp [value?]
  | finite t n k =>
      show (addFinite t n k s m e).value? = _
      rw [addFinite_value?]
      simp [value?, ← EReal.coe_add]

theorem add_mono {x x' y y' : Double} (hx : x.le x' = true) (hy : y.le y' = true)
    (hfinite : y.isFinite = true) (hfinite' : y'.isFinite = true) : (x + y).le (x' + y') = true := by
  obtain ⟨a, a', ha, ha', haa⟩ := le_iff_value?.mp hx
  obtain ⟨b, b', hb, hb', hbb⟩ := le_iff_value?.mp hy
  cases y <;> cases hfinite
  cases y' <;> cases hfinite'
  cases hb
  cases hb'
  refine le_iff_value?.mpr ⟨_, _, ?_, ?_, roundedExt_mono (add_le_add haa hbb)⟩
  · rw [add_finite_value?, ha]
    rfl
  · rw [add_finite_value?, ha']
    rfl

theorem sub_mono {x x' y : Double} (h : x.le x' = true) (hfinite : y.isFinite = true) :
    (x - y).le (x' - y) = true := by
  cases y <;> cases hfinite
  rename_i s m e
  show (x + finite (!s) m e).le (x' + finite (!s) m e) = true
  exact add_mono h (finite_le_self (!s) m e) rfl rfl

/-- **A product with a positive double is the exact product, rounded once.** -/
theorem mul_finite_value? (x : Double) {m : Nat} (hm : 0 < m) (e : ℤ) :
    (x * finite false m e).value? = x.value?.map fun a => roundedExt (a * finiteValue false m e) := by
  have hpos : 0 < finiteValue false m e := by
    rw [finiteValue_eq]
    simp only [Bool.false_eq_true, if_false]
    positivity
  cases x with
  | nan _ => rfl
  | infinite t =>
      show (if m = 0 then nan 0 else infinite (t != false)).value? = _
      rw [if_neg hm.ne']
      cases t
      · simp [value?, EReal.top_mul_coe_of_pos hpos]
      · simp [value?, EReal.bot_mul_coe_of_pos hpos]
  | finite t n k =>
      obtain ⟨hden, hdiv⟩ := magnitude_div (n * m) (k + e)
      have hsize : (0 : ℝ) ≤ ((n * m : ℕ) : ℝ) * 2 ^ (k + e) := by positivity
      have hproduct : (if (t != false) = true then -(((n * m : ℕ) : ℝ) * 2 ^ (k + e))
          else ((n * m : ℕ) : ℝ) * 2 ^ (k + e)) = finiteValue t n k * finiteValue false m e := by
        rw [finiteValue_eq, finiteValue_eq, zpow_add₀ two_ne_zero]
        cases t <;> simp <;> ring
      show (ofScaled (t != false) (n * m) (k + e)).value? = _
      unfold ofScaled
      rw [ofRatio_value? _ _ hden, hdiv, signed_roundedSize _ hsize, hproduct]
      simp [value?, ← EReal.coe_mul]

theorem mul_mono {x x' : Double} (h : x.le x' = true) {m : Nat} (hm : 0 < m) (e : ℤ) :
    (x * finite false m e).le (x' * finite false m e) = true := by
  obtain ⟨a, a', ha, ha', haa⟩ := le_iff_value?.mp h
  have hnonneg : (0 : EReal) ≤ (finiteValue false m e : EReal) := by
    rw [finiteValue_eq]
    simp only [Bool.false_eq_true, if_false]
    exact_mod_cast (by positivity : (0 : ℝ) ≤ (m : ℝ) * 2 ^ e)
  refine le_iff_value?.mpr ⟨_, _, ?_, ?_, roundedExt_mono (mul_le_mul_of_nonneg_right haa hnonneg)⟩
  · rw [mul_finite_value? x hm, ha]
    rfl
  · rw [mul_finite_value? x' hm, ha']
    rfl

theorem finite_mul_comm (s : Bool) (m : Nat) (e : ℤ) (x : Double) : finite s m e * x = x * finite s m e := by
  cases x with
  | nan _ => rfl
  | infinite t =>
      show (if m = 0 then nan 0 else infinite (s != t)) = if m = 0 then nan 0 else infinite (t != s)
      rw [bne_comm]
  | finite t n k =>
      show ofScaled (s != t) (m * n) (e + k) = ofScaled (t != s) (n * m) (k + e)
      rw [bne_comm, Nat.mul_comm, Int.add_comm]

/-! ## Integers near a double -/

/-- **The nearest integer of a double is that of its value.** -/
theorem finite_roundInt (s : Bool) (m : Nat) (e : ℤ) :
    (finite s m e).roundInt = halfEven (finiteValue s m e) := by
  obtain ⟨hden, hdiv⟩ := magnitude_div m e
  have hunits : (decimalUnits m e 0 : ℤ) = halfEven (m * 2 ^ e) := by
    show ((roundDiv ((magnitude m e).1 * 1) (magnitude m e).2 : ℕ) : ℤ) = _
    rw [Nat.mul_one, roundDiv_eq_halfEven _ hden, hdiv]
  show signedMantissa s (decimalUnits m e 0) = _
  unfold signedMantissa
  rw [hunits, finiteValue_eq]
  cases s
  · rfl
  · exact (halfEven_neg _).symm

theorem roundInt_of_value? {x : Double} {r : ℝ} (h : x.value? = some (r : EReal)) :
    x.roundInt = halfEven r := by
  cases x with
  | nan _ => cases h
  | infinite s => cases s <;> simp [value?] at h
  | finite s m e =>
      obtain rfl : finiteValue s m e = r := EReal.coe_injective (Option.some.inj h)
      exact finite_roundInt s m e

theorem roundInt_mono {x y : Double} (h : x.le y = true) (hx : x.isFinite = true)
    (hy : y.isFinite = true) : x.roundInt ≤ y.roundInt := by
  obtain ⟨a, b, ha, hb, hab⟩ := le_iff_value?.mp h
  cases x <;> cases hx
  cases y <;> cases hy
  cases ha
  cases hb
  rw [finite_roundInt, finite_roundInt]
  exact halfEven_mono (EReal.coe_le_coe_iff.mp hab)

/-- The integer part of a real, toward zero. -/
noncomputable def integerPart (r : ℝ) : ℤ := if r < 0 then ⌈r⌉ else ⌊r⌋

theorem integerPart_mono {r t : ℝ} (h : r ≤ t) : integerPart r ≤ integerPart t := by
  unfold integerPart
  by_cases hr : r < 0
  · rw [if_pos hr]
    by_cases ht : t < 0
    · rw [if_pos ht]
      exact Int.ceil_mono h
    · rw [if_neg ht]
      calc ⌈r⌉ ≤ 0 := Int.ceil_le.mpr (by exact_mod_cast hr.le)
        _ ≤ ⌊t⌋ := Int.floor_nonneg.mpr (not_lt.mp ht)
  · rw [if_neg hr, if_neg (fun ht => hr (h.trans_lt ht))]
    exact Int.floor_mono h

theorem finite_truncate? (s : Bool) (m : Nat) (e : ℤ) :
    (finite s m e).truncate? = some (integerPart (finiteValue s m e)) := by
  obtain ⟨hden, hdiv⟩ := magnitude_div m e
  have hfloor : (((magnitude m e).1 / (magnitude m e).2 : ℕ) : ℤ) = ⌊(m : ℝ) * 2 ^ e⌋ := by
    rw [← hdiv, Int.floor_div_natCast, Int.floor_natCast, Int.natCast_ediv]
  have hsize : (0 : ℝ) ≤ (m : ℝ) * 2 ^ e := by positivity
  show some (signedMantissa s ((magnitude m e).1 / (magnitude m e).2)) = _
  unfold signedMantissa integerPart
  rw [hfloor, finiteValue_eq]
  cases s with
  | false => simp [not_lt.mpr hsize]
  | true =>
      rcases hsize.eq_or_lt with hzero | hpos
      · simp [← hzero]
      · simp [hpos, Int.ceil_neg]

theorem exists_truncate? {x : Double} (hx : x.isFinite = true) : ∃ i, x.truncate? = some i := by
  cases x <;> cases hx
  exact ⟨_, finite_truncate? _ _ _⟩

theorem exists_of_truncate? {x : Double} {i : ℤ} (h : x.truncate? = some i) :
    ∃ s m e, x = finite s m e ∧ i = integerPart (finiteValue s m e) := by
  cases x with
  | nan _ => cases h
  | infinite _ => cases h
  | finite s m e => exact ⟨s, m, e, rfl, Option.some.inj (h.symm.trans (finite_truncate? s m e))⟩

theorem truncate?_mono {x y : Double} {i j : ℤ} (h : x.le y = true) (hi : x.truncate? = some i)
    (hj : y.truncate? = some j) : i ≤ j := by
  obtain ⟨s, m, e, rfl, rfl⟩ := exists_of_truncate? hi
  obtain ⟨t, n, k, rfl, rfl⟩ := exists_of_truncate? hj
  obtain ⟨a, b, ha, hb, hab⟩ := le_iff_value?.mp h
  cases ha
  cases hb
  exact integerPart_mono (EReal.coe_le_coe_iff.mp hab)

/-- A double is less than one away from its integer part. -/
theorem between_of_truncate? {x : Double} {i : ℤ} (h : x.truncate? = some i) :
    (Number.int (i - 1)).le (.double x) = true ∧ (Number.double x).le (.int (i + 1)) = true := by
  obtain ⟨s, m, e, rfl, rfl⟩ := exists_of_truncate? h
  set r := finiteValue s m e with hr
  have hbetween : ((integerPart r - 1 : ℤ) : ℝ) ≤ r ∧ r ≤ ((integerPart r + 1 : ℤ) : ℝ) := by
    unfold integerPart
    push_cast
    split
    next =>
      have hlow := Int.ceil_lt_add_one r
      have hhigh := Int.le_ceil r
      exact ⟨by linarith, by linarith⟩
    next =>
      have hlow := Int.floor_le r
      have hhigh := Int.lt_floor_add_one r
      exact ⟨by linarith, hhigh.le⟩
  exact ⟨Number.le_iff.mpr ⟨_, _, rfl, rfl, EReal.coe_le_coe_iff.mpr hbetween.1⟩,
    Number.le_iff.mpr ⟨_, _, rfl, rfl, EReal.coe_le_coe_iff.mpr hbetween.2⟩⟩

/-- A double with a negative integer part is not above it. -/
theorem le_of_truncate?_neg {x : Double} {i : ℤ} (h : x.truncate? = some i) (hi : i < 0) :
    (Number.double x).le (.int i) = true := by
  obtain ⟨s, m, e, rfl, hpart⟩ := exists_of_truncate? h
  refine Number.le_iff.mpr ⟨_, _, rfl, rfl, EReal.coe_le_coe_iff.mpr ?_⟩
  unfold integerPart at hpart
  split at hpart
  next => exact hpart ▸ Int.le_ceil _
  next hnonneg =>
    have hfloor := Int.floor_nonneg.mpr (not_lt.mp hnonneg)
    omega

end Double
end CodeCensus
