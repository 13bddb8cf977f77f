import CodeCensus.Number.Double
import Mathlib.Algebra.Order.Archimedean.Real.Basic
import Mathlib.Algebra.Order.Field.Power
import Mathlib.Data.EReal.Operations
import Mathlib.Data.Int.Log

/-!
# Rounding on the real line

What `Double.ofRatio` computes with naturals, said for real numbers: a real is put on the grid of the
doubles near it and goes to the nearest grid point, a half to the even one; what is too large becomes
infinite. On the real line it is plain that this never reverses an order, and every order law of the
arithmetic of doubles rests on that.

## Contents
- `halfEven` — the nearest integer, with `roundDiv_eq_halfEven`;
- `Double.grid`, `ratioLog2_eq_log` — the grid near a real, and the logarithm that finds it;
- `Double.finiteValue` — the real that a finite double stands for;
- `Double.onGrid`, `Double.rounded` — the rounded real, and `Double.rounded_mono`.
-/

namespace CodeCensus

/-! ## The nearest integer -/

/-- The integer nearest to a real, a half going to the even neighbour. -/
noncomputable def halfEven (x : ℝ) : ℤ :=
  if Int.fract x < 1 / 2 then ⌊x⌋ else if 1 / 2 < Int.fract x then ⌊x⌋ + 1 else ⌊x⌋ + ⌊x⌋ % 2

theorem floor_le_halfEven (x : ℝ) : ⌊x⌋ ≤ halfEven x := by
  unfold halfEven
  split
  · exact le_rfl
  · split <;> omega

theorem halfEven_le_floor_succ (x : ℝ) : halfEven x ≤ ⌊x⌋ + 1 := by
  unfold halfEven
  split
  · omega
  · split <;> omega

/-- Rounding keeps the order. Between two integers it is decided by the fractional part; across one, the
    integer separates the two results. -/
theorem halfEven_mono {x y : ℝ} (h : x ≤ y) : halfEven x ≤ halfEven y := by
  rcases (Int.floor_mono h).eq_or_lt with hxy | hxy
  · have hfract : Int.fract x ≤ Int.fract y := by
      unfold Int.fract
      rw [hxy]
      linarith
    by_cases hlow : Int.fract x < 1 / 2
    · calc halfEven x = ⌊y⌋ := by rw [halfEven, if_pos hlow, hxy]
        _ ≤ halfEven y := floor_le_halfEven y
    · have hlow' : ¬ Int.fract y < 1 / 2 := by linarith
      by_cases hhigh : 1 / 2 < Int.fract y
      · calc halfEven x ≤ ⌊x⌋ + 1 := halfEven_le_floor_succ x
          _ = halfEven y := by rw [halfEven, if_neg hlow', if_pos hhigh, hxy]
      · -- both lie exactly in the middle, and go the same way
        have hhigh' : ¬ 1 / 2 < Int.fract x := by linarith
        rw [halfEven, halfEven, if_neg hlow, if_neg hhigh', if_neg hlow', if_neg hhigh, hxy]
  · calc halfEven x ≤ ⌊x⌋ + 1 := halfEven_le_floor_succ x
      _ ≤ ⌊y⌋ := hxy
      _ ≤ halfEven y := floor_le_halfEven y

@[simp] theorem halfEven_intCast (k : ℤ) : halfEven (k : ℝ) = k := by
  simp [halfEven]

theorem le_halfEven {x : ℝ} {k : ℤ} (h : (k : ℝ) ≤ x) : k ≤ halfEven x := by
  rw [← halfEven_intCast k]
  exact halfEven_mono h

theorem halfEven_le {x : ℝ} {k : ℤ} (h : x ≤ (k : ℝ)) : halfEven x ≤ k := by
  rw [← halfEven_intCast k]
  exact halfEven_mono h

/-- The division of naturals rounds the real quotient. -/
theorem roundDiv_eq_halfEven (num : Nat) {den : Nat} (hden : 0 < den) :
    (roundDiv num den : ℤ) = halfEven (num / den) := by
  have hfloor : ⌊(num / den : ℝ)⌋ = ((num / den : Nat) : ℤ) := by
    rw [Int.floor_div_natCast, Int.floor_natCast]
    exact (Int.natCast_ediv num den).symm
  have hfract : Int.fract (num / den : ℝ) = ((num % den : Nat) : ℝ) / den :=
    Int.fract_div_natCast_eq_div_natCast_mod
  have hpos : (0 : ℝ) < den := by exact_mod_cast hden
  unfold halfEven roundDiv
  simp only [hfloor, hfract, div_lt_div_iff₀ hpos two_pos, div_lt_div_iff₀ two_pos hpos]
  norm_cast
  split_ifs <;> omega

/-! ## The grid near a number -/

/-- Scaling down divides by the power of two. -/
theorem scaleDown_div (num : Nat) {den : Nat} (hden : 0 < den) (e : ℤ) :
    0 < (scaleDown num den e).2 ∧
      ((scaleDown num den e).1 / (scaleDown num den e).2 : ℝ) = num / den / 2 ^ e := by
  unfold scaleDown
  split
  · rename_i he
    obtain ⟨n, rfl⟩ := Int.eq_ofNat_of_zero_le he
    refine ⟨Nat.mul_pos hden (Nat.two_pow_pos n), ?_⟩
    simp only [Nat.pow_eq, Int.toNat_natCast, zpow_natCast]
    push_cast
    rw [div_div]
  · rename_i he
    obtain ⟨n, hn⟩ : ∃ n : Nat, e = -(n : ℤ) := ⟨(-e).toNat, by omega⟩
    subst hn
    refine ⟨hden, ?_⟩
    simp only [Nat.pow_eq, neg_neg, Int.toNat_natCast, zpow_neg, zpow_natCast]
    push_cast
    rw [div_inv_eq_mul, div_mul_eq_mul_div]

/-- The logarithm of a number between two powers of two that follow each other. -/
theorem log_eq_of_bounds {x : ℝ} {k : ℤ} (hlow : 2 ^ k ≤ x) (hhigh : x < 2 ^ (k + 1)) :
    Int.log 2 x = k := by
  have hx : 0 < x := lt_of_lt_of_le (by positivity) hlow
  have h1 : k ≤ Int.log 2 x :=
    (Int.zpow_le_iff_le_log (b := 2) (by decide) hx).mp (by exact_mod_cast hlow)
  have h2 : Int.log 2 x < k + 1 :=
    (Int.lt_zpow_iff_log_lt (b := 2) (by decide) hx).mp (by exact_mod_cast hhigh)
  omega

/-- A positive natural lies between the powers of two at its logarithm. -/
theorem natCast_bounds {n : Nat} (hn : 0 < n) :
    (2 : ℝ) ^ (n.log2 : ℤ) ≤ n ∧ (n : ℝ) < 2 ^ ((n.log2 : ℤ) + 1) := by
  have hlow : 2 ^ n.log2 ≤ n := Nat.log2_self_le (by omega)
  have hhigh : n < 2 ^ (n.log2 + 1) := Nat.lt_log2_self
  constructor
  · rw [zpow_natCast]
    exact_mod_cast hlow
  · rw [← Nat.cast_succ, zpow_natCast]
    exact_mod_cast hhigh

/-- The logarithms of numerator and denominator leave two candidates, between which one comparison
    decides. -/
theorem ratioLog2_eq_log {num den : Nat} (hnum : 0 < num) (hden : 0 < den) :
    ratioLog2 num den = Int.log 2 (num / den : ℝ) := by
  obtain ⟨hn1, hn2⟩ := natCast_bounds hnum
  obtain ⟨hd1, hd2⟩ := natCast_bounds hden
  have hpos : (0 : ℝ) < den := by exact_mod_cast hden
  -- the quotient of the leading powers of two is off by less than a factor of two either way
  set k : ℤ := (num.log2 : ℤ) - den.log2 with hk
  have hlow : (2 : ℝ) ^ (k - 1) ≤ num / den := by
    rw [le_div_iff₀ hpos]
    calc (2 : ℝ) ^ (k - 1) * den ≤ 2 ^ (k - 1) * 2 ^ ((den.log2 : ℤ) + 1) := by gcongr
      _ = 2 ^ (num.log2 : ℤ) := by rw [← zpow_add₀ two_ne_zero]; congr 1; omega
      _ ≤ num := hn1
  have hhigh : (num / den : ℝ) < 2 ^ (k + 1) := by
    rw [div_lt_iff₀ hpos]
    calc (num : ℝ) < 2 ^ ((num.log2 : ℤ) + 1) := hn2
      _ = 2 ^ (k + 1) * 2 ^ (den.log2 : ℤ) := by rw [← zpow_add₀ two_ne_zero]; congr 1; omega
      _ ≤ 2 ^ (k + 1) * den := by gcongr
  obtain ⟨hs, hscaled⟩ := scaleDown_div num hden k
  have hs' : (0 : ℝ) < (scaleDown num den k).2 := by exact_mod_cast hs
  have hle : (scaleDown num den k).2 ≤ (scaleDown num den k).1 ↔ (2 : ℝ) ^ k ≤ num / den := by
    rw [← Nat.cast_le (α := ℝ), ← one_le_div hs', hscaled, one_le_div (by positivity)]
  unfold ratioLog2
  simp only [← hk, hle]
  split
  · rename_i h
    exact (log_eq_of_bounds h hhigh).symm
  · rename_i h
    exact (log_eq_of_bounds hlow (by simpa using h)).symm

namespace Double

/-- The exponent of the grid on which a number is rounded. -/
noncomputable def grid (x : ℝ) : ℤ := max (Int.log 2 x - 52) minExponent

theorem gridExponent_eq_grid {num den : Nat} (hnum : 0 < num) (hden : 0 < den) :
    gridExponent num den = grid (num / den) := by
  unfold gridExponent grid
  rw [ratioLog2_eq_log hnum hden]

theorem grid_mono {x y : ℝ} (hx : 0 < x) (h : x ≤ y) : grid x ≤ grid y := by
  have hlog : Int.log 2 x ≤ Int.log 2 y := Int.log_mono_right hx h
  unfold grid
  omega

/-- A number has at most 53 bits on its grid. -/
theorem lt_two_zpow_grid (x : ℝ) : x < 2 ^ (grid x + 53) := by
  have hlog : x < (2 : ℝ) ^ (Int.log 2 x + 1) := by
    exact_mod_cast Int.lt_zpow_succ_log_self (b := 2) (by decide) x
  have hgrid : Int.log 2 x + 1 ≤ grid x + 53 := by
    unfold grid
    omega
  exact hlog.trans_le (zpow_le_zpow_right₀ one_le_two hgrid)

/-- Above the finest grid a number has all 53 bits. -/
theorem two_zpow_grid_le {x : ℝ} (hx : 0 < x) (hfine : minExponent < grid x) :
    2 ^ (grid x + 52) ≤ x := by
  have hlog : (2 : ℝ) ^ Int.log 2 x ≤ x := by
    exact_mod_cast Int.zpow_log_le_self (b := 2) (by decide) hx
  have hgrid : grid x + 52 = Int.log 2 x := by
    unfold grid at hfine ⊢
    omega
  rwa [hgrid]

/-! ## The rounded number -/

/-- The value of a finite double. -/
noncomputable def finiteValue (negative : Bool) (mantissa : Nat) (exponent : ℤ) : ℝ :=
  signedMantissa negative mantissa * 2 ^ exponent

/-- The number of grid steps in a number, rounded. -/
noncomputable def gridSteps (x : ℝ) : ℤ := halfEven (x / 2 ^ grid x)

/-- The point of its grid that a number goes to, without regard to its size. -/
noncomputable def onGrid (x : ℝ) : ℝ := gridSteps x * 2 ^ grid x

theorem gridSteps_nonneg {x : ℝ} (hx : 0 ≤ x) : 0 ≤ gridSteps x :=
  le_halfEven (by push_cast; positivity)

theorem gridSteps_le (x : ℝ) : gridSteps x ≤ 2 ^ 53 := by
  apply halfEven_le
  rw [div_le_iff₀ (by positivity)]
  calc x ≤ 2 ^ (grid x + 53) := (lt_two_zpow_grid x).le
    _ = ((2 ^ 53 : ℤ) : ℝ) * 2 ^ grid x := by
      rw [add_comm, zpow_add₀ two_ne_zero]
      norm_num

theorem le_gridSteps {x : ℝ} (hx : 0 < x) (hfine : minExponent < grid x) : 2 ^ 52 ≤ gridSteps x := by
  apply le_halfEven
  rw [le_div_iff₀ (by positivity)]
  calc ((2 ^ 52 : ℤ) : ℝ) * 2 ^ grid x = 2 ^ (grid x + 52) := by
        rw [add_comm, zpow_add₀ two_ne_zero]
        norm_num
    _ ≤ x := two_zpow_grid_le hx hfine

theorem onGrid_nonneg {x : ℝ} (hx : 0 ≤ x) : 0 ≤ onGrid x := by
  have h : (0 : ℝ) ≤ gridSteps x := by exact_mod_cast gridSteps_nonneg hx
  unfold onGrid
  positivity

@[simp] theorem onGrid_zero : onGrid 0 = 0 := by
  have h : gridSteps 0 = 0 := by
    unfold gridSteps
    rw [zero_div]
    exact_mod_cast halfEven_intCast 0
  simp [onGrid, h]

/-- Going to the grid keeps the order. On one grid the steps are compared; across two, the finer grid
    ends where the coarser one begins. -/
theorem onGrid_mono {x y : ℝ} (hx : 0 < x) (h : x ≤ y) : onGrid x ≤ onGrid y := by
  unfold onGrid
  rcases (grid_mono hx h).eq_or_lt with hgrid | hgrid
  · have hsteps : gridSteps x ≤ gridSteps y := by
      unfold gridSteps
      rw [hgrid]
      exact halfEven_mono (by gcongr)
    rw [hgrid]
    gcongr
  · -- the coarser grid is not the finest one, so `y` has all its bits on it
    have hfine : minExponent < grid y := lt_of_le_of_lt (le_max_right _ _) hgrid
    have hlow : (gridSteps x : ℝ) ≤ 2 ^ (53 : ℤ) := by exact_mod_cast gridSteps_le x
    have hhigh : (2 : ℝ) ^ (52 : ℤ) ≤ gridSteps y := by
      exact_mod_cast le_gridSteps (hx.trans_le h) hfine
    calc (gridSteps x : ℝ) * 2 ^ grid x ≤ 2 ^ (53 : ℤ) * 2 ^ grid x := by gcongr
      _ = 2 ^ (53 + grid x) := by rw [← zpow_add₀ two_ne_zero]
      _ ≤ 2 ^ (52 + grid y) := zpow_le_zpow_right₀ one_le_two (by omega)
      _ = 2 ^ (52 : ℤ) * 2 ^ grid y := by rw [← zpow_add₀ two_ne_zero]
      _ ≤ gridSteps y * 2 ^ grid y := by gcongr

/-- A number grows past the largest double on a grid that is too coarse, or by being rounded up to a power
    of two on the coarsest grid there is. -/
theorem two_zpow_le_onGrid_iff {x : ℝ} (hx : 0 < x) :
    2 ^ (1024 : ℤ) ≤ onGrid x ↔
      maxExponent < grid x ∨ gridSteps x = 2 ^ 53 ∧ grid x = maxExponent := by
  unfold onGrid
  constructor
  · intro h
    by_contra hcon
    rw [not_or, not_and_or, not_lt] at hcon
    obtain ⟨hgrid, hlast⟩ := hcon
    have hsteps := gridSteps_le x
    have hbound : (gridSteps x : ℝ) * 2 ^ grid x < 2 ^ (1024 : ℤ) := by
      rcases hlast with hlast | hlast
      · have hlt : (gridSteps x : ℝ) < 2 ^ (53 : ℤ) := by
          exact_mod_cast lt_of_le_of_ne hsteps hlast
        calc (gridSteps x : ℝ) * 2 ^ grid x < 2 ^ (53 : ℤ) * 2 ^ grid x := by gcongr
          _ = 2 ^ (53 + grid x) := by rw [← zpow_add₀ two_ne_zero]
          _ ≤ 2 ^ (1024 : ℤ) := zpow_le_zpow_right₀ one_le_two (by unfold maxExponent at hgrid; omega)
      · have hle : (gridSteps x : ℝ) ≤ 2 ^ (53 : ℤ) := by exact_mod_cast hsteps
        calc (gridSteps x : ℝ) * 2 ^ grid x ≤ 2 ^ (53 : ℤ) * 2 ^ grid x := by gcongr
          _ = 2 ^ (53 + grid x) := by rw [← zpow_add₀ two_ne_zero]
          _ < 2 ^ (1024 : ℤ) := zpow_lt_zpow_right₀ one_lt_two (by unfold maxExponent at hgrid hlast; omega)
    exact absurd h (not_le.mpr hbound)
  · rintro (hgrid | ⟨hsteps, hgrid⟩)
    · have hfine : minExponent < grid x := by
        unfold maxExponent at hgrid
        unfold minExponent
        omega
      have hle : (2 : ℝ) ^ (52 : ℤ) ≤ gridSteps x := by exact_mod_cast le_gridSteps hx hfine
      calc (2 : ℝ) ^ (1024 : ℤ) ≤ 2 ^ (52 + grid x) :=
            zpow_le_zpow_right₀ one_le_two (by unfold maxExponent at hgrid; omega)
        _ = 2 ^ (52 : ℤ) * 2 ^ grid x := by rw [← zpow_add₀ two_ne_zero]
        _ ≤ gridSteps x * 2 ^ grid x := by gcongr
    · rw [hsteps, hgrid, maxExponent, Int.cast_pow, Int.cast_ofNat, ← zpow_natCast,
        ← zpow_add₀ two_ne_zero]
      norm_num

/-- The double nearest to a number that is not negative, as an extended real: what reaches the power of two
    past the largest double is infinite. -/
noncomputable def roundedSize (x : ℝ) : EReal :=
  if 2 ^ (1024 : ℤ) ≤ onGrid x then ⊤ else (onGrid x : EReal)

theorem roundedSize_nonneg {x : ℝ} (hx : 0 ≤ x) : 0 ≤ roundedSize x := by
  unfold roundedSize
  split
  · exact le_top
  · exact_mod_cast onGrid_nonneg hx

@[simp] theorem roundedSize_zero : roundedSize 0 = 0 := by
  unfold roundedSize
  rw [onGrid_zero, if_neg (not_le.mpr (by positivity))]
  rfl

theorem roundedSize_mono {x y : ℝ} (hx : 0 ≤ x) (h : x ≤ y) : roundedSize x ≤ roundedSize y := by
  rcases hx.eq_or_lt with rfl | hpos
  · rw [roundedSize_zero]
    exact roundedSize_nonneg h
  · have hgrid := onGrid_mono hpos h
    unfold roundedSize
    by_cases hy : 2 ^ (1024 : ℤ) ≤ onGrid y
    · rw [if_pos hy]
      exact le_top
    · rw [if_neg hy, if_neg (fun hx => hy (hx.trans hgrid))]
      exact_mod_cast hgrid

/-- The double nearest to a number, as an extended real. -/
noncomputable def rounded (x : ℝ) : EReal := if x < 0 then -roundedSize (-x) else roundedSize x

/-- **Rounding never reverses an order.** -/
theorem rounded_mono {x y : ℝ} (h : x ≤ y) : rounded x ≤ rounded y := by
  unfold rounded
  by_cases hy : y < 0
  · rw [if_pos hy, if_pos (h.trans_lt hy), EReal.neg_le_neg_iff]
    exact roundedSize_mono (by linarith) (by linarith)
  · rw [if_neg hy]
    by_cases hx : x < 0
    · rw [if_pos hx]
      calc -roundedSize (-x) ≤ 0 := EReal.neg_le_zero.mpr (roundedSize_nonneg (by linarith))
        _ ≤ roundedSize y := roundedSize_nonneg (not_lt.mp hy)
    · rw [if_neg hx]
      exact roundedSize_mono (not_lt.mp hx) h

end Double
end CodeCensus
