import CodeCensus.Duplicate.Jaccard
import CodeCensus.Proofs.NumberValue

/-!
# The Jaccard coefficient and the sizes of the sets

The union is never built: its size is taken from the two sizes and the number of shared elements. What the
sizes alone say about the coefficient is a bound, and since both quotients are rounded the same way the
bound also holds of the rounded numbers.

## Contents
- `sharedCount_le_left`, `sharedCount_le_right` — the intersection is no larger than either set;
- `sharedCount_comm`, `jaccard_comm` — neither set comes first;
- `jaccard_eq_ofRatio`, `jaccard_value?` — the coefficient as a rounded quotient;
- `jaccard_le_sizeBound` — the bound by sizes.
-/

namespace CodeCensus

variable {α : Type} [BEq α] [Hashable α] [LawfulBEq α] [LawfulHashable α]

/-! ## Shared elements -/

theorem sharedCount_le_left (a b : Std.HashSet α) : sharedCount a b ≤ a.size := by
  unfold sharedCount
  rw [← Std.HashSet.length_toList]
  exact List.length_filter_le _ _

/-- A set lists each element once. -/
theorem nodup_toList (a : Std.HashSet α) : a.toList.Nodup := by
  have h := Std.HashSet.distinct_toList (m := a)
  refine h.imp ?_
  intro x y hne he
  rw [he, beq_self_eq_true] at hne
  exact absurd hne (by simp)

theorem sharedCount_le_right (a b : Std.HashSet α) : sharedCount a b ≤ b.size := by
  unfold sharedCount
  rw [← Std.HashSet.length_toList (m := b)]
  have hnodup : (a.toList.filter b.contains).Nodup := (nodup_toList a).filter _
  apply hnodup.length_le_of_subset
  intro x hx
  rw [List.mem_filter, Std.HashSet.contains_iff_mem] at hx
  exact Std.HashSet.mem_toList.mpr hx.2

/-- The elements that both sets have are counted from either side. -/
theorem sharedCount_comm (a b : Std.HashSet α) : sharedCount a b = sharedCount b a := by
  have hperm : (a.toList.filter b.contains).Perm (b.toList.filter a.contains) := by
    apply (List.perm_ext_iff_of_nodup ((nodup_toList a).filter _) ((nodup_toList b).filter _)).mpr
    intro x
    simp only [List.mem_filter, Std.HashSet.mem_toList, Std.HashSet.contains_iff_mem]
    exact and_comm
  exact hperm.length_eq

/-! ## The coefficient -/

/-- **The coefficient does not depend on which set comes first.** -/
theorem jaccard_comm (a b : Std.HashSet α) : jaccard a b = jaccard b a := by
  unfold jaccard
  rw [Bool.and_comm a.isEmpty, Bool.or_comm a.isEmpty, sharedCount_comm a b, Nat.add_comm a.size]

/-- Unless both sets are empty, the coefficient is the quotient of the numbers of shared and of all
    elements. -/
theorem jaccard_eq_ofRatio (a b : Std.HashSet α) (h : max a.size b.size ≠ 0) :
    jaccard a b = Double.ofRatio false (sharedCount a b) (a.size + b.size - sharedCount a b) := by
  have hleft := sharedCount_le_left a b
  have hright := sharedCount_le_right a b
  unfold jaccard
  simp only [Std.HashSet.isEmpty_eq_size_eq_zero]
  by_cases hempty : a.size = 0 ∨ b.size = 0
  · -- an empty set shares nothing, and the quotient of nothing is zero
    have hshared : sharedCount a b = 0 := by omega
    rw [if_neg (by simp; omega), if_pos (by simpa using hempty), hshared]
    rfl
  · rw [if_neg (by simp; omega), if_neg (by simpa using hempty)]

theorem jaccard_value? (a b : Std.HashSet α) (h : max a.size b.size ≠ 0) :
    (jaccard a b).value? = some (Double.roundedSize
      (sharedCount a b / (a.size + b.size - sharedCount a b : Nat))) := by
  have hleft := sharedCount_le_left a b
  have hright := sharedCount_le_right a b
  have hden : 0 < a.size + b.size - sharedCount a b := by omega
  rw [jaccard_eq_ofRatio a b h, Double.ofRatio_value? false _ hden]
  rfl

/-- **The sizes bound the coefficient**, after rounding as before it. -/
theorem jaccard_le_sizeBound (a b : Std.HashSet α) (h : max a.size b.size ≠ 0) :
    ∃ x y, (jaccard a b).value? = some x ∧ (sizeBound a.size b.size).value? = some y ∧ x ≤ y := by
  have hleft := sharedCount_le_left a b
  have hright := sharedCount_le_right a b
  have hmax : 0 < max a.size b.size := Nat.pos_of_ne_zero h
  have hunion : max a.size b.size ≤ a.size + b.size - sharedCount a b := by omega
  have hshared : sharedCount a b ≤ min a.size b.size := by omega
  refine ⟨_, _, jaccard_value? a b h, Double.ofRatio_value? false _ hmax, ?_⟩
  apply Double.roundedSize_mono (by positivity)
  have hmax' : (0 : ℝ) < (max a.size b.size : Nat) := by exact_mod_cast hmax
  have hunion' : ((max a.size b.size : Nat) : ℝ) ≤ (a.size + b.size - sharedCount a b : Nat) := by
    exact_mod_cast hunion
  have hshared' : (sharedCount a b : ℝ) ≤ (min a.size b.size : Nat) := by exact_mod_cast hshared
  gcongr

end CodeCensus
