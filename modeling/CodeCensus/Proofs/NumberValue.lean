import CodeCensus.Number.Basic
import CodeCensus.Proofs.Rounding
import Mathlib.Order.Compare

/-!
# The exact value of a number

Integers and doubles side by side on the extended real line. Comparison of numbers is comparison of
their values, and an operation on doubles is the exact operation on their values followed by one rounding;
so laws about numbers reduce to `Double.rounded_mono` and the order of the reals.

## Contents
- `Double.value?`, `Number.value?` — the value, which only a NaN lacks;
- `Number.lt_iff`, `Number.le_iff` — comparison by value;
- `Double.ofRatio_value?`, `Double.sub_value?` — quotient and difference by value;
- `Number.sub_lt_eq_false_of_le` — a difference does not fall below a bound when its first number grows.
-/

namespace CodeCensus

namespace Double

/-- The value of a double that is not a NaN. -/
noncomputable def value? : Double → Option EReal
  | nan _ => none
  | infinite s => some (if s then ⊥ else ⊤)
  | finite s m e => some (finiteValue s m e : EReal)

end Double

/-- The value of a number that is not a NaN. -/
noncomputable def Number.value? : Number → Option EReal
  | int n => some ((n : ℝ) : EReal)
  | double x => x.value?

/-! ## Comparison -/

/-- Integers compare as their multiples of a power of two do. -/
theorem compare_eq_compare_scaled (base m n : ℤ) :
    compare m n = compare (((m : ℝ) * 2 ^ base : ℝ) : EReal) (((n : ℝ) * 2 ^ base : ℝ) : EReal) := by
  have hmono : StrictMono fun k : ℤ => (((k : ℝ) * 2 ^ base : ℝ) : EReal) := by
    intro a b hab
    have h : (a : ℝ) < b := by exact_mod_cast hab
    exact EReal.coe_lt_coe_iff.mpr (by gcongr)
  have h := hmono.cmp_map_eq m n
  rwa [cmp_eq_compare, cmp_eq_compare, eq_comm] at h

namespace Double

/-- Aligning to a base keeps the value. -/
theorem alignTo_mul {base e : ℤ} (hbase : base ≤ e) (s : Bool) (m : Nat) :
    (alignTo base s m e : ℝ) * 2 ^ base = finiteValue s m e := by
  obtain ⟨n, hn⟩ : ∃ n : Nat, e = base + n := ⟨(e - base).toNat, by omega⟩
  subst hn
  have hexp : (base + (n : ℤ) - base).toNat = n := by omega
  unfold alignTo finiteValue signedMantissa
  rw [hexp, zpow_add₀ two_ne_zero, zpow_natCast]
  cases s <;> simp <;> ring

theorem compareFinite_eq (s₁ : Bool) (m₁ : Nat) (e₁ : ℤ) (s₂ : Bool) (m₂ : Nat) (e₂ : ℤ) :
    compareFinite s₁ m₁ e₁ s₂ m₂ e₂ =
      compare (finiteValue s₁ m₁ e₁ : EReal) (finiteValue s₂ m₂ e₂ : EReal) := by
  unfold compareFinite
  rw [compare_eq_compare_scaled (min e₁ e₂), alignTo_mul (min_le_left _ _),
    alignTo_mul (min_le_right _ _)]

/-- Minus infinity is below, and infinity above, every number. -/
theorem compare_infinite (s : Bool) (r : ℝ) :
    compare (if s then ⊥ else ⊤ : EReal) r = if s then .lt else .gt := by
  cases s with
  | false => exact compare_gt_iff_gt.mpr (EReal.coe_lt_top r)
  | true => exact compare_lt_iff_lt.mpr (EReal.bot_lt_coe r)

/-- Doubles compare by value. -/
theorem compare?_eq (x y : Double) :
    x.compare? y = x.value?.bind fun a => y.value?.map fun b => compare a b := by
  cases x with
  | nan _ => rfl
  | infinite s =>
      cases y with
      | nan _ => rfl
      | infinite t =>
          cases s <;> cases t <;> simp [compare?, value?, eq_comm (b := compare _ _),
            compare_lt_iff_lt, compare_gt_iff_gt]
      | finite t m e => simp [compare?, value?, compare_infinite]
  | finite s m e =>
      cases y with
      | nan _ => rfl
      | infinite t =>
          simp only [compare?, value?, Option.bind_some, Option.map_some]
          rw [Std.OrientedOrd.eq_swap, compare_infinite]
          cases t <;> rfl
      | finite t m' e' => simp [compare?, value?, compareFinite_eq]

/-- A double compares with an integer by value. -/
theorem compareInt?_eq (x : Double) (n : ℤ) :
    x.compareInt? n = x.value?.map fun a => compare a ((n : ℝ) : EReal) := by
  cases x with
  | nan _ => rfl
  | infinite s => simp [compareInt?, value?, compare_infinite]
  | finite s m e =>
      -- both sides are brought to the smaller of the exponents, which is not positive
      obtain ⟨k, hk⟩ : ∃ k : Nat, min e 0 = -(k : ℤ) := ⟨(-min e 0).toNat, by omega⟩
      have hn : (((n * Nat.pow 2 (-min e 0).toNat : ℤ) : ℝ)) * 2 ^ min e 0 = n := by
        rw [hk, neg_neg, Int.toNat_natCast, zpow_neg, zpow_natCast, Nat.pow_eq]
        push_cast
        field_simp
      simp only [compareInt?, value?, Option.map_some, Option.some.injEq]
      rw [compare_eq_compare_scaled (min e 0), alignTo_mul (min_le_left _ _), hn]

end Double

namespace Number

/-- Numbers compare by value. -/
theorem compare?_eq (a b : Number) :
    a.compare? b = a.value?.bind fun x => b.value?.map fun y => compare x y := by
  cases a with
  | int m =>
      cases b with
      | int n =>
          have h := compare_eq_compare_scaled 0 m n
          simp only [zpow_zero, mul_one] at h
          simp [compare?, value?, h]
      | double y =>
          simp only [compare?, value?, Double.compareInt?_eq, Option.map_map, Option.bind_some]
          congr 1
          funext y
          exact Std.OrientedOrd.eq_swap.symm
  | double x =>
      cases b with
      | int n =>
          simp only [compare?, value?, Double.compareInt?_eq, Option.map_some]
          cases x.value? <;> rfl
      | double y => exact Double.compare?_eq x y

/-- `a < b` says that both have a value and the first value is the smaller one. -/
theorem lt_iff {a b : Number} :
    a.lt b = true ↔ ∃ x y, a.value? = some x ∧ b.value? = some y ∧ x < y := by
  unfold lt
  rw [compare?_eq]
  cases a.value? with
  | none => simp
  | some x =>
      cases b.value? with
      | none => simp
      | some y => simp [compare_lt_iff_lt]

/-- `a ≤ b` says that both have a value and the first value is not the larger one. -/
theorem le_iff {a b : Number} :
    a.le b = true ↔ ∃ x y, a.value? = some x ∧ b.value? = some y ∧ x ≤ y := by
  unfold le
  rw [compare?_eq]
  cases a.value? with
  | none => simp
  | some x =>
      cases b.value? with
      | none => simp
      | some y =>
          simp only [Option.bind_some, Option.map_some, Option.some.injEq, exists_and_left,
            exists_eq_left', ← compare_le_iff_le]
          cases compare x y <;> simp

/-- Of two numbers with values, one is below the other or at least as large. -/
theorem le_iff_lt_eq_false {a b : Number} {x y : EReal} (ha : a.value? = some x)
    (hb : b.value? = some y) : b.le a = true ↔ a.lt b = false := by
  rw [← Bool.not_eq_true, le_iff, lt_iff]
  simp [ha, hb]

theorem lt_eq_false_of_le {a b : Number} (h : b.le a = true) : a.lt b = false := by
  obtain ⟨y, x, hb, ha, -⟩ := le_iff.mp h
  exact (le_iff_lt_eq_false ha hb).mp h

end Number

/-! ## Quotients and differences -/

namespace Double

/-- A grid point as a double, infinite when its exponent is too large. -/
theorem bounded_value? {m : Nat} {e : ℤ} {x : ℝ} (s : Bool) (hvalue : (m : ℝ) * 2 ^ e = onGrid x)
    (hover : maxExponent < e ↔ 2 ^ (1024 : ℤ) ≤ onGrid x) :
    (if maxExponent < e then infinite s else finite s m e).value? =
      some (if s then -roundedSize x else roundedSize x) := by
  unfold roundedSize
  by_cases hlarge : maxExponent < e
  · rw [if_pos hlarge, if_pos (hover.mp hlarge)]
    cases s <;> rfl
  · rw [if_neg hlarge, if_neg (fun h => hlarge (hover.mpr h)), ← hvalue]
    cases s <;> simp [value?, finiteValue, signedMantissa]

/-- **A quotient of naturals is the exact quotient, rounded once.** -/
theorem ofRatio_value? (s : Bool) (num : Nat) {den : Nat} (hden : 0 < den) :
    (ofRatio s num den).value? =
      some (if s then -roundedSize (num / den) else roundedSize (num / den)) := by
  by_cases hnum : num = 0
  · subst hnum
    cases s <;> simp [ofRatio, signedZero, value?, finiteValue, signedMantissa]
  · have hpos : 0 < num := Nat.pos_of_ne_zero hnum
    have hx : (0 : ℝ) < num / den := by positivity
    obtain ⟨hscaled, hdiv⟩ := scaleDown_div num hden (grid (num / den))
    set m : Nat := roundDiv (scaleDown num den (grid (num / den))).1
      (scaleDown num den (grid (num / den))).2 with hm
    have hsteps : gridSteps (num / den : ℝ) = m := by
      rw [hm, roundDiv_eq_halfEven _ hscaled, hdiv]
      rfl
    have hvalue : (m : ℝ) * 2 ^ grid (num / den : ℝ) = onGrid (num / den) := by
      unfold onGrid
      rw [hsteps, Int.cast_natCast]
    have hover := two_zpow_le_onGrid_iff hx
    rw [hsteps] at hover
    unfold ofRatio
    simp only [if_neg hnum, gridExponent_eq_grid hpos hden, ← hm]
    by_cases hcarry : m = 2 * leastNormal
    · -- rounded up to a power of two: the mantissa is halved and the exponent raised
      simp only [if_pos hcarry]
      apply bounded_value?
      · rw [← hvalue, hcarry, zpow_add_one₀ two_ne_zero]
        push_cast
        ring
      · rw [hover, hcarry]
        unfold leastNormal
        omega
    · simp only [if_neg hcarry]
      apply bounded_value? s hvalue
      rw [hover]
      unfold leastNormal at hcarry
      omega

/-- A mantissa and an exponent as a fraction. -/
theorem magnitude_div (m : Nat) (e : ℤ) :
    0 < (magnitude m e).2 ∧ ((magnitude m e).1 / (magnitude m e).2 : ℝ) = m * 2 ^ e := by
  unfold magnitude
  split
  · rename_i he
    obtain ⟨n, rfl⟩ := Int.eq_ofNat_of_zero_le he
    simp
  · rename_i he
    obtain ⟨n, hn⟩ : ∃ n : Nat, e = -(n : ℤ) := ⟨(-e).toNat, by omega⟩
    subst hn
    simp [div_eq_mul_inv]

/-- **A sum of finite doubles is the exact sum, rounded once.** -/
theorem addFinite_value? (s₁ : Bool) (m₁ : Nat) (e₁ : ℤ) (s₂ : Bool) (m₂ : Nat) (e₂ : ℤ) :
    (addFinite s₁ m₁ e₁ s₂ m₂ e₂).value? =
      some (rounded (finiteValue s₁ m₁ e₁ + finiteValue s₂ m₂ e₂)) := by
  set base := min e₁ e₂ with hbase
  set total := alignTo base s₁ m₁ e₁ + alignTo base s₂ m₂ e₂ with htotal
  have hsum : finiteValue s₁ m₁ e₁ + finiteValue s₂ m₂ e₂ = (total : ℝ) * 2 ^ base := by
    rw [← alignTo_mul (min_le_left e₁ e₂), ← alignTo_mul (min_le_right e₁ e₂), htotal]
    push_cast
    ring
  have hpow : (0 : ℝ) < 2 ^ base := by positivity
  obtain ⟨hden, hdiv⟩ := magnitude_div total.natAbs base
  unfold addFinite
  simp only [← hbase, ← htotal, hsum]
  by_cases hzero : total = 0
  · rw [if_pos hzero, hzero]
    cases s₁ <;> cases s₂ <;> simp [signedZero, value?, finiteValue, signedMantissa, rounded]
  · rw [if_neg hzero]
    unfold ofScaled rounded
    simp only [ofRatio_value? _ _ hden, hdiv]
    rcases lt_or_gt_of_ne hzero with hneg | hneg
    · have hreal : (total : ℝ) < 0 := by exact_mod_cast hneg
      have habs : ((total.natAbs : ℕ) : ℝ) = -total := by
        rw [Nat.cast_natAbs, abs_of_neg hneg, Int.cast_neg]
      rw [if_pos (mul_neg_of_neg_of_pos hreal hpow), habs, neg_mul]
      simp [hneg]
    · have hreal : (0 : ℝ) < total := by exact_mod_cast hneg
      have habs : ((total.natAbs : ℕ) : ℝ) = total := by
        rw [Nat.cast_natAbs, abs_of_pos hneg]
      rw [if_neg (not_lt.mpr (mul_pos hreal hpow).le), habs]
      simp [hneg.le]

theorem finite_sub_value? (s₁ : Bool) (m₁ : Nat) (e₁ : ℤ) (s₂ : Bool) (m₂ : Nat) (e₂ : ℤ) :
    (finite s₁ m₁ e₁ - finite s₂ m₂ e₂).value? =
      some (rounded (finiteValue s₁ m₁ e₁ - finiteValue s₂ m₂ e₂)) := by
  have hneg : finiteValue (!s₂) m₂ e₂ = -finiteValue s₂ m₂ e₂ := by
    cases s₂ <;> simp [finiteValue, signedMantissa]
  show (addFinite s₁ m₁ e₁ (!s₂) m₂ e₂).value? = _
  rw [addFinite_value?, hneg, sub_eq_add_neg]

/-- Rounding on the extended line leaves its ends in place. -/
noncomputable def roundedExt : EReal → EReal
  | ⊥ => ⊥
  | ⊤ => ⊤
  | (r : ℝ) => rounded r

@[simp] theorem roundedExt_bot : roundedExt ⊥ = ⊥ := rfl

@[simp] theorem roundedExt_top : roundedExt ⊤ = ⊤ := rfl

@[simp] theorem roundedExt_coe (r : ℝ) : roundedExt r = rounded r := rfl

theorem roundedExt_mono {a b : EReal} (h : a ≤ b) : roundedExt a ≤ roundedExt b := by
  induction a with
  | bot => exact bot_le
  | top => rw [top_le_iff.mp h]
  | coe r =>
      induction b with
      | bot => exact absurd (le_bot_iff.mp h) (EReal.coe_ne_bot r)
      | top => exact le_top
      | coe s => exact rounded_mono (EReal.coe_le_coe_iff.mp h)

/-- **A difference is the exact difference, rounded once;** an infinite number minus itself is a NaN. -/
theorem sub_value? (x y : Double) :
    (x - y).value? = x.value?.bind fun a => y.value?.bind fun b =>
      if a = b ∧ (b = ⊤ ∨ b = ⊥) then none else some (roundedExt (a - b)) := by
  cases x with
  | nan _ => rfl
  | infinite s =>
      cases y with
      | nan _ => rfl
      | infinite t => cases s <;> cases t <;> rfl
      | finite t m e =>
          change (infinite s).value? = _
          cases s <;> simp [value?]
  | finite s m e =>
      cases y with
      | nan _ => rfl
      | infinite t =>
          change (infinite !t).value? = _
          cases t <;> simp [value?]
      | finite t n k =>
          rw [finite_sub_value?]
          simp [value?, ← EReal.coe_sub]

/-- A larger first number gives no smaller difference, unless the smaller difference is a NaN and the
    larger one infinite. -/
theorem sub_value?_mono {x x' y : Double} {v' : EReal}
    (hle : (Number.double x).le (.double x') = true) (hv' : (x' - y).value? = some v') :
    v' = ⊤ ∨ ∃ v, (x - y).value? = some v ∧ v ≤ v' := by
  obtain ⟨a, a', ha, ha', haa⟩ := Number.le_iff.mp hle
  simp only [Number.value?] at ha ha'
  rw [sub_value?, ha'] at hv'
  rw [sub_value?, ha]
  cases hb : y.value? with
  | none => simp [hb] at hv'
  | some b =>
      simp only [hb, Option.bind_some, Option.ite_none_left_eq_some] at hv' ⊢
      obtain ⟨hvalue, hv'⟩ := hv'
      obtain rfl := Option.some.inj hv'
      by_cases hsame : a = b ∧ (b = ⊤ ∨ b = ⊥)
      · -- the smaller number is infinite, and so is the larger one if both lie above everything
        obtain ⟨rfl, rfl | rfl⟩ := hsame
        · exact absurd ⟨top_le_iff.mp haa, .inl rfl⟩ hvalue
        · left
          rw [EReal.sub_bot fun h => hvalue ⟨h, .inr rfl⟩, roundedExt_top]
      · exact .inr ⟨_, ⟨hsame, rfl⟩, roundedExt_mono (EReal.sub_le_sub haa le_rfl)⟩

end Double

/-- **A difference that is not below a bound stays so when its first number grows.** -/
theorem Number.sub_lt_eq_false_of_le {x x' y : Double} {bound : Number}
    (hle : (Number.double x).le (.double x') = true)
    (hnot : (Number.double (x - y)).lt bound = false) :
    (Number.double (x' - y)).lt bound = false := by
  rw [Bool.eq_false_iff] at hnot ⊢
  intro hlt
  obtain ⟨v', b, hv', hb, hvb⟩ := lt_iff.mp hlt
  rcases Double.sub_value?_mono hle hv' with rfl | ⟨v, hv, hvv⟩
  · exact not_top_lt hvb
  · exact hnot (lt_iff.mpr ⟨v, b, hv, hb, hvv.trans_lt hvb⟩)

end CodeCensus
