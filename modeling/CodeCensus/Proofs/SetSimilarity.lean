import CodeCensus.Proofs.StoppedScan
import Mathlib.Data.Set.Card

/-!
# Laws of set similarity

The Jaccard coefficient of two finite sets is their intersection over their union, by number of elements, and
rounded to a double. For sets of up to 52 bits of elements, rounding reaches neither end by mistake: the
coefficient is one for equal sets alone, and zero for sets without a common element alone. A quotient of
different numbers is away from one, and a quotient that is not zero is away from zero, by at least a part in
two to the power 53, and a double lies in between. What a scan reports follows: every similarity is between the
threshold and one, and at the threshold one a scan finds the items with equal sets.

## Contents
- `Double.roundedSize_of_bits` — a number with all its bits is rounded to itself;
- `elements`, `sharedCount_eq_ncard`, `divisor_eq_ncard` — sets and the numbers of their elements;
- `JaccardLaws` — the laws of the coefficient, with `jaccardLaws`;
- `SimilarWithin`, `scanPairs_within` — the similarity of a reported group;
- `jaccard_laws` — the laws, and what they mean for the two scans.
-/

namespace CodeCensus

/-! ## Numbers that rounding leaves in place -/

namespace Double

/-- **A number with all its bits is rounded to itself.** -/
theorem roundedSize_of_bits {m : ℕ} {e : ℤ} (hlow : 2 ^ 52 ≤ m) (hhigh : m < 2 ^ 53)
    (hmin : minExponent ≤ e) (hmax : e ≤ maxExponent) :
    roundedSize ((m : ℝ) * 2 ^ e) = (((m : ℝ) * 2 ^ e : ℝ) : EReal) := by
  have hpow : (0 : ℝ) < 2 ^ e := by positivity
  have hlow' : (2 : ℝ) ^ (52 : ℤ) ≤ m := by exact_mod_cast hlow
  have hhigh' : (m : ℝ) < 2 ^ (53 : ℤ) := by exact_mod_cast hhigh
  have hlog : Int.log 2 ((m : ℝ) * 2 ^ e) = 52 + e := by
    apply log_eq_of_bounds
    · rw [zpow_add₀ two_ne_zero]
      gcongr
    · calc (m : ℝ) * 2 ^ e < 2 ^ (53 : ℤ) * 2 ^ e := by gcongr
        _ = 2 ^ (52 + e + 1) := by rw [← zpow_add₀ two_ne_zero]; congr 1; omega
  have hgrid : grid ((m : ℝ) * 2 ^ e) = e := by
    unfold grid
    rw [hlog]
    omega
  have hsteps : gridSteps ((m : ℝ) * 2 ^ e) = m := by
    unfold gridSteps
    rw [hgrid, mul_div_cancel_right₀ _ hpow.ne']
    exact_mod_cast halfEven_intCast m
  have hself : onGrid ((m : ℝ) * 2 ^ e) = (m : ℝ) * 2 ^ e := by
    unfold onGrid
    rw [hsteps, hgrid, Int.cast_natCast]
  have hfinite : (m : ℝ) * 2 ^ e < 2 ^ (1024 : ℤ) := by
    calc (m : ℝ) * 2 ^ e < 2 ^ (53 : ℤ) * 2 ^ e := by gcongr
      _ = 2 ^ (53 + e) := by rw [← zpow_add₀ two_ne_zero]
      _ ≤ 2 ^ (1024 : ℤ) := zpow_le_zpow_right₀ one_le_two (by unfold maxExponent at hmax; omega)
  unfold roundedSize
  rw [hself, if_neg (not_le.mpr hfinite)]

theorem roundedSize_one : roundedSize 1 = 1 := by
  have hone : (1 : ℝ) = ((2 ^ 52 : ℕ) : ℝ) * 2 ^ (-52 : ℤ) := by norm_num
  have hself := roundedSize_of_bits (m := 2 ^ 52) (e := -52) le_rfl (by norm_num) (by decide) (by decide)
  rw [← hone] at hself
  exact hself

/-- The double before one separates one from what lies further below. -/
theorem roundedSize_lt_one {x : ℝ} (hx : 0 ≤ x) (h : x ≤ 1 - (2 ^ 53)⁻¹) : roundedSize x < 1 := by
  have hbefore : (1 : ℝ) - (2 ^ 53)⁻¹ = ((2 ^ 53 - 1 : ℕ) : ℝ) * 2 ^ (-53 : ℤ) := by norm_num
  have hself := roundedSize_of_bits (m := 2 ^ 53 - 1) (e := -53) (by norm_num) (by norm_num) (by decide)
    (by decide)
  rw [← hbefore] at hself
  calc roundedSize x ≤ roundedSize (1 - (2 ^ 53)⁻¹) := roundedSize_mono hx h
    _ = ((1 - (2 ^ 53)⁻¹ : ℝ) : EReal) := hself
    _ < ((1 : ℝ) : EReal) := EReal.coe_lt_coe_iff.mpr (by norm_num)

theorem roundedSize_pos {x : ℝ} (h : (2 ^ 53)⁻¹ ≤ x) : 0 < roundedSize x := by
  have hleast : ((2 : ℝ) ^ 53)⁻¹ = ((2 ^ 52 : ℕ) : ℝ) * 2 ^ (-105 : ℤ) := by norm_num
  have hself := roundedSize_of_bits (m := 2 ^ 52) (e := -105) le_rfl (by norm_num) (by decide) (by decide)
  rw [← hleast] at hself
  calc (0 : EReal) < (((2 ^ 53)⁻¹ : ℝ) : EReal) := by exact_mod_cast (by positivity : (0 : ℝ) < (2 ^ 53)⁻¹)
    _ = roundedSize ((2 ^ 53)⁻¹) := hself.symm
    _ ≤ roundedSize x := roundedSize_mono (by positivity) h

end Double

/-! ## Elements of finite sets -/

section Sets

variable {α : Type} [BEq α] [Hashable α]

/-- The elements of a set. -/
def elements (a : Std.HashSet α) : Set α := {x | x ∈ a}

variable [LawfulBEq α] [LawfulHashable α] (a b : Std.HashSet α)

/-- A list without repetitions has as many elements as its length says. -/
theorem ncard_mem_list {β : Type} {xs : List β} (h : xs.Nodup) : {x | x ∈ xs}.ncard = xs.length := by
  classical
  have hset : {x | x ∈ xs} = (xs.toFinset : Set β) := by
    ext x
    simp
  rw [hset, Set.ncard_coe_finset, List.toFinset_card_of_nodup h]

omit [LawfulHashable α] in
theorem elements_eq : elements a = {x | x ∈ a.toList} := by
  ext x
  exact Std.HashSet.mem_toList.symm

omit [LawfulHashable α] in
theorem finite_elements : (elements a).Finite := by
  rw [elements_eq]
  exact List.finite_toSet a.toList

theorem size_eq_ncard : a.size = (elements a).ncard := by
  rw [elements_eq, ncard_mem_list (nodup_toList a), Std.HashSet.length_toList]

theorem sharedCount_eq_ncard : sharedCount a b = (elements a ∩ elements b).ncard := by
  have hset : elements a ∩ elements b = {x | x ∈ a.toList.filter b.contains} := by
    ext x
    simp [elements]
  rw [hset, ncard_mem_list ((nodup_toList a).filter _)]
  rfl

/-- **The divisor is the number of elements of the union**, by inclusion and exclusion. -/
theorem divisor_eq_ncard : a.size + b.size - sharedCount a b = (elements a ∪ elements b).ncard := by
  have hcount := Set.ncard_union_add_ncard_inter (elements a) (elements b) (finite_elements a)
    (finite_elements b)
  rw [size_eq_ncard a, size_eq_ncard b, sharedCount_eq_ncard, ← hcount, Nat.add_sub_cancel]

theorem elements_ofList (xs : List α) : elements (Std.HashSet.ofList xs) = {x | x ∈ xs} := by
  ext x
  simp [elements]

theorem elements_ofList_eq_iff {xs ys : List α} :
    elements (Std.HashSet.ofList xs) = elements (Std.HashSet.ofList ys) ↔ ∀ x, x ∈ xs ↔ x ∈ ys := by
  rw [elements_ofList, elements_ofList, Set.ext_iff]
  rfl

/-! ## The laws of the coefficient -/

/-- What holds of the coefficient of two sets. -/
structure JaccardLaws : Prop where
  divisor_pos : a.isEmpty = false → b.isEmpty = false → 0 < a.size + b.size - sharedCount a b
  quotient : (elements a ∪ elements b).Nonempty →
    jaccard a b = Double.ofRatio false (elements a ∩ elements b).ncard (elements a ∪ elements b).ncard
  both_empty : elements a = ∅ → elements b = ∅ → jaccard a b = Double.ofInt 1
  symmetric : jaccard a b = jaccard b a
  bounded : ∃ x, (jaccard a b).value? = some x ∧ 0 ≤ x ∧ x ≤ 1
  one_iff : (jaccard a b).value? = some 1 ↔ elements a = elements b
  zero_iff : (jaccard a b).value? = some 0 ↔
    elements a ∩ elements b = ∅ ∧ (elements a ∪ elements b).Nonempty
  at_most_sizes : max (elements a).ncard (elements b).ncard ≠ 0 →
    (Number.double (jaccard a b)).le (.double (Double.ofRatio false
      (min (elements a).ncard (elements b).ncard) (max (elements a).ncard (elements b).ncard))) = true

theorem union_nonempty_iff : (elements a ∪ elements b).Nonempty ↔ max a.size b.size ≠ 0 := by
  rw [← Set.ncard_pos ((finite_elements a).union (finite_elements b)), ← divisor_eq_ncard]
  have hleft := sharedCount_le_left a b
  have hright := sharedCount_le_right a b
  omega

theorem sharedCount_eq_zero_iff : sharedCount a b = 0 ↔ elements a ∩ elements b = ∅ := by
  rw [sharedCount_eq_ncard, Set.ncard_eq_zero ((finite_elements a).inter_of_left _)]

/-- All elements are shared by equal sets alone. -/
theorem sharedCount_eq_divisor_iff :
    sharedCount a b = a.size + b.size - sharedCount a b ↔ elements a = elements b := by
  have hsame : elements a ∩ elements b = elements a ∪ elements b ↔ elements a = elements b := inf_eq_sup
  rw [divisor_eq_ncard, sharedCount_eq_ncard, ← hsame]
  constructor
  · intro hcount
    exact Set.eq_of_subset_of_ncard_le (Set.inter_subset_left.trans Set.subset_union_left) hcount.ge
      ((finite_elements a).union (finite_elements b))
  · intro heq
    exact congrArg Set.ncard heq

omit [LawfulBEq α] [LawfulHashable α] in
/-- The coefficient of two empty sets. -/
theorem jaccard_of_empty (h : max a.size b.size = 0) : jaccard a b = Double.ofInt 1 := by
  have ha : a.isEmpty = true := by
    rw [Std.HashSet.isEmpty_eq_size_eq_zero, beq_iff_eq]
    omega
  have hb : b.isEmpty = true := by
    rw [Std.HashSet.isEmpty_eq_size_eq_zero, beq_iff_eq]
    omega
  unfold jaccard
  rw [ha, hb]
  rfl

theorem ofInt_one_value? : (Double.ofInt 1).value? = some 1 := by
  have hquotient := Double.ofRatio_value? false 1 Nat.one_pos
  rw [Nat.cast_one, div_one, Double.roundedSize_one] at hquotient
  exact hquotient

/-- The coefficient lies between zero and one, whatever the sizes. -/
theorem jaccard_bounded : ∃ x, (jaccard a b).value? = some x ∧ 0 ≤ x ∧ x ≤ 1 := by
  by_cases hempty : max a.size b.size = 0
  · rw [jaccard_of_empty a b hempty]
    exact ⟨1, ofInt_one_value?, zero_le_one, le_rfl⟩
  · have hleft := sharedCount_le_left a b
    have hright := sharedCount_le_right a b
    have hshare : sharedCount a b ≤ a.size + b.size - sharedCount a b := by omega
    refine ⟨_, jaccard_value? a b hempty, Double.roundedSize_nonneg (by positivity), ?_⟩
    rw [← Double.roundedSize_one]
    apply Double.roundedSize_mono (by positivity)
    exact div_le_one_of_le₀ (by exact_mod_cast hshare) (by positivity)

/-- A threshold of zero is reached by all sets. -/
theorem reaches_zero : (Number.int 0).le (.double (jaccard a b)) = true := by
  obtain ⟨x, hx, hpos, _⟩ := jaccard_bounded a b
  exact Number.le_iff.mpr ⟨_, x, rfl, hx, by simpa using hpos⟩

/-- A quotient of a smaller by a larger number of at most 53 bits is away from one. -/
theorem quotient_le_of_lt {i u : ℕ} (hlt : i < u) (hu : u ≤ 2 ^ 53) :
    (i / u : ℝ) ≤ 1 - (2 ^ 53)⁻¹ := by
  have hpos : (0 : ℝ) < u := by exact_mod_cast Nat.zero_lt_of_lt hlt
  have hlt' : (i : ℝ) + 1 ≤ u := by exact_mod_cast hlt
  have hu' : (u : ℝ) ≤ 2 ^ 53 := by exact_mod_cast hu
  have hpart : (2 ^ 53 : ℝ)⁻¹ * u ≤ 1 := by
    rw [inv_mul_le_iff₀ (by positivity), mul_one]
    exact hu'
  rw [div_le_iff₀ hpos, sub_mul, one_mul]
  linarith

/-- A quotient that is not zero is away from zero. -/
theorem le_quotient_of_pos {i u : ℕ} (hi : 0 < i) (hpos : 0 < u) (hu : u ≤ 2 ^ 53) :
    (2 ^ 53 : ℝ)⁻¹ ≤ i / u := by
  have hpos' : (0 : ℝ) < u := by exact_mod_cast hpos
  have hi' : (1 : ℝ) ≤ i := by exact_mod_cast hi
  have hu' : (u : ℝ) ≤ 2 ^ 53 := by exact_mod_cast hu
  rw [le_div_iff₀ hpos']
  calc (2 ^ 53 : ℝ)⁻¹ * u ≤ 1 := by
        rw [inv_mul_le_iff₀ (by positivity), mul_one]
        exact hu'
    _ ≤ i := hi'

variable {a b}

/-- **The coefficient is one for equal sets alone.** -/
theorem jaccard_eq_one_iff (ha : a.size < 2 ^ 52) (hb : b.size < 2 ^ 52) :
    (jaccard a b).value? = some 1 ↔ elements a = elements b := by
  by_cases hempty : max a.size b.size = 0
  · rw [jaccard_of_empty a b hempty]
    refine iff_of_true ofInt_one_value? ?_
    rw [← sharedCount_eq_divisor_iff]
    have hleft := sharedCount_le_left a b
    omega
  · have hleft := sharedCount_le_left a b
    have hright := sharedCount_le_right a b
    rw [jaccard_value? a b hempty, Option.some.injEq, ← sharedCount_eq_divisor_iff]
    constructor
    · intro hone
      by_contra hne
      -- some element is not shared, and the rounded quotient stays below one
      have hlt : sharedCount a b < a.size + b.size - sharedCount a b := by omega
      exact (Double.roundedSize_lt_one (by positivity) (quotient_le_of_lt hlt (by omega))).ne hone
    · intro heq
      have hpos : (0 : ℝ) < (a.size + b.size - sharedCount a b : ℕ) := by
        exact_mod_cast (by omega : 0 < a.size + b.size - sharedCount a b)
      rw [← heq] at hpos ⊢
      rw [div_self hpos.ne', Double.roundedSize_one]

/-- **The coefficient is zero for sets without a common element alone**, unless both are empty. -/
theorem jaccard_eq_zero_iff (ha : a.size < 2 ^ 52) (hb : b.size < 2 ^ 52) :
    (jaccard a b).value? = some 0 ↔
      elements a ∩ elements b = ∅ ∧ (elements a ∪ elements b).Nonempty := by
  rw [union_nonempty_iff]
  by_cases hempty : max a.size b.size = 0
  · rw [jaccard_of_empty a b hempty, ofInt_one_value?]
    refine iff_of_false ?_ fun h => h.2 hempty
    simp
  · have hleft := sharedCount_le_left a b
    have hright := sharedCount_le_right a b
    rw [jaccard_value? a b hempty, Option.some.injEq, ← sharedCount_eq_zero_iff]
    constructor
    · intro hzero
      refine ⟨?_, hempty⟩
      by_contra hne
      -- an element is shared, and the rounded quotient stays above zero
      have hquotient := le_quotient_of_pos (Nat.pos_of_ne_zero hne)
        (by omega : 0 < a.size + b.size - sharedCount a b) (by omega)
      exact (Double.roundedSize_pos hquotient).ne' hzero
    · rintro ⟨hnone, _⟩
      rw [hnone, Nat.cast_zero, zero_div, Double.roundedSize_zero]

theorem jaccardLaws (ha : a.size < 2 ^ 52) (hb : b.size < 2 ^ 52) : JaccardLaws a b where
  divisor_pos := by
    intro hsome _
    rw [Std.HashSet.isEmpty_eq_size_eq_zero, beq_eq_false_iff_ne] at hsome
    have hright := sharedCount_le_right a b
    omega
  quotient := by
    intro hsome
    rw [← sharedCount_eq_ncard, ← divisor_eq_ncard]
    exact jaccard_eq_ofRatio a b ((union_nonempty_iff a b).mp hsome)
  both_empty := by
    intro hnone hnone'
    apply jaccard_of_empty
    rw [size_eq_ncard, size_eq_ncard, hnone, hnone', Set.ncard_empty, Nat.max_self]
  symmetric := jaccard_comm a b
  bounded := jaccard_bounded a b
  one_iff := jaccard_eq_one_iff ha hb
  zero_iff := jaccard_eq_zero_iff ha hb
  at_most_sizes := by
    rw [← size_eq_ncard, ← size_eq_ncard]
    intro hsome
    exact Number.le_iff.mpr (jaccard_le_sizeBound a b hsome)

end Sets

/-! ## What scans report -/

section Scans

variable (options : SimilarityOptions)

/-- The similarity of the group is a double from the threshold up to one. -/
def SimilarWithin (threshold : Number) (g : DuplicateGroup) : Prop :=
  ∃ x, g.similarity = .float x ∧ threshold.le (.double x) = true ∧ (Number.double x).le (.int 1) = true

/-- Every group of a scan, wherever it was stopped, has a similarity from the threshold up to one. -/
theorem scanPairs_within {kind : DuplicateKind} {excluded : Candidate → Candidate → Bool}
    {candidates : List Candidate} {stop : Nat → Bool} {session : Session} {turn : Nat → Nat}
    {g : DuplicateGroup} (hg : g ∈ (scanPairs options kind excluded candidates stop session turn).groups) :
    SimilarWithin options.threshold g := by
  have honest : HonestOutcome options kind excluded candidates stop session
    (scanPairs options kind excluded candidates stop session turn) := scanPairs_honest turn
  have hall := honest.sublist.subset hg
  rw [← honest.unstopped session turn, scanPairs_groups options kind excluded candidates fun _ => rfl] at hall
  obtain ⟨⟨a, b⟩, _, hpair⟩ := List.mem_filterMap.mp hall
  obtain ⟨s, hs, rfl⟩ := Option.map_eq_some_iff.mp hpair
  rw [pairSimilarity?_eq] at hs
  simp only [Option.ite_none_left_eq_some, Option.ite_none_right_eq_some, Option.some.injEq] at hs
  obtain ⟨_, hreached, rfl⟩ := hs
  obtain ⟨x, hx, _, hle⟩ := jaccard_bounded a.tokens b.tokens
  refine ⟨_, rfl, hreached, Number.le_iff.mpr ⟨x, 1, hx, ?_, hle⟩⟩
  show some (((1 : ℤ) : ℝ) : EReal) = some 1
  simp

variable {options}

/-- At the threshold one, sets are alike if they are equal and have enough elements. -/
theorem alike_iff_of_one (hone : options.threshold.value? = some 1) {a b : Std.HashSet String}
    (ha : a.size < 2 ^ 52) (hb : b.size < 2 ^ 52) :
    Alike options a b ↔ options.minTokens ≤ a.size ∧ elements a = elements b := by
  have hreached : options.threshold.le (.double (jaccard a b)) = true ↔ elements a = elements b := by
    rw [← jaccard_eq_one_iff ha hb, Number.le_iff]
    obtain ⟨x, hx, _, hle⟩ := jaccard_bounded a b
    constructor
    · rintro ⟨t, y, ht, hy, hty⟩
      have hy : some x = some y := hx.symm.trans hy
      obtain rfl := Option.some.inj hy
      obtain rfl := Option.some.inj (hone.symm.trans ht)
      rw [hx, le_antisymm hle hty]
    · intro hvalue
      exact ⟨1, 1, hone, hvalue, le_rfl⟩
  unfold Alike
  rw [hreached]
  constructor
  · rintro ⟨hmin, _, hequal⟩
    exact ⟨hmin, hequal⟩
  · rintro ⟨hmin, hequal⟩
    have hsize : a.size = b.size := by rw [size_eq_ncard, size_eq_ncard, hequal]
    exact ⟨hmin, hsize ▸ hmin, hequal⟩

theorem ListsPairs.congr {κ : Type} {before similar similar' : κ → κ → Prop}
    {shows : κ → κ → DuplicateGroup → Prop} {groups : List DuplicateGroup}
    (h : ListsPairs before similar shows groups) (hsame : ∀ i j, similar i j ↔ similar' i j) :
    ListsPairs before similar' shows groups := by
  obtain ⟨pairs, hordered, hmem, hshown⟩ := h
  refine ⟨pairs, hordered, ?_, hshown⟩
  intro i j
  rw [hmem, hsame]

variable (options) (records : List FileRecord)

/-- No file and no block has two to the power 52 different tokens. -/
def FewTokens : Prop :=
  ∀ r ∈ records, (Std.HashSet.ofList r.tokens).size < 2 ^ 52 ∧
    ∀ b ∈ r.blocks, (Std.HashSet.ofList (tokenize b.content)).size < 2 ^ 52

/-- The files at two positions differ in content and have the same tokens, enough of them. -/
def SameTokensAt (i j : Nat) : Prop :=
  ∃ a b, records[i]? = some a ∧ records[j]? = some b ∧ a.contentHash ≠ b.contentHash ∧
    options.minTokens ≤ (Std.HashSet.ofList a.tokens).size ∧ ∀ token, token ∈ a.tokens ↔ token ∈ b.tokens

/-- The blocks at two positions are from different files, differ in text and have the same tokens, enough of
    them. -/
def SameBlockTokensAt (p q : Nat × Nat) : Prop :=
  p.1 ≠ q.1 ∧ ∃ r b r' b', BlockAt records p r b ∧ BlockAt records q r' b' ∧ b.hash ≠ b'.hash ∧
    options.minTokens ≤ (Std.HashSet.ofList (tokenize b.content)).size ∧
    ∀ token, token ∈ tokenize b.content ↔ token ∈ tokenize b'.content

variable {options records}

theorem similarFilesAt_iff_of_one (hone : options.threshold.value? = some 1) (hfew : FewTokens records)
    (i j : Nat) : SimilarFilesAt options records i j ↔ SameTokensAt options records i j := by
  have halike : ∀ a b, records[i]? = some a → records[j]? = some b →
      (Alike options (.ofList a.tokens) (.ofList b.tokens) ↔
        options.minTokens ≤ (Std.HashSet.ofList a.tokens).size ∧ ∀ token, token ∈ a.tokens ↔ token ∈ b.tokens) := by
    intro a b ha hb
    rw [alike_iff_of_one hone (hfew a (List.mem_of_getElem? ha)).1 (hfew b (List.mem_of_getElem? hb)).1,
      elements_ofList_eq_iff]
  constructor
  · rintro ⟨a, b, ha, hb, hne, h⟩
    exact ⟨a, b, ha, hb, hne, (halike a b ha hb).mp h⟩
  · rintro ⟨a, b, ha, hb, hne, h⟩
    exact ⟨a, b, ha, hb, hne, (halike a b ha hb).mpr h⟩

theorem similarBlocksAt_iff_of_one (hone : options.threshold.value? = some 1) (hfew : FewTokens records)
    (p q : Nat × Nat) : SimilarBlocksAt options records p q ↔ SameBlockTokensAt options records p q := by
  have hsmall : ∀ p r b, BlockAt records p r b → (Std.HashSet.ofList (tokenize b.content)).size < 2 ^ 52 := by
    rintro p r b ⟨hr, hb⟩
    exact (hfew r (List.mem_of_getElem? hr)).2 b (List.mem_of_getElem? hb)
  have halike : ∀ r b r' b', BlockAt records p r b → BlockAt records q r' b' →
      (Alike options (.ofList (tokenize b.content)) (.ofList (tokenize b'.content)) ↔
        options.minTokens ≤ (Std.HashSet.ofList (tokenize b.content)).size ∧
          ∀ token, token ∈ tokenize b.content ↔ token ∈ tokenize b'.content) := by
    intro r b r' b' hb hb'
    rw [alike_iff_of_one hone (hsmall p r b hb) (hsmall q r' b' hb'), elements_ofList_eq_iff]
  constructor
  · rintro ⟨hfile, r, b, r', b', hb, hb', hne, h⟩
    exact ⟨hfile, r, b, r', b', hb, hb', hne, (halike r b r' b' hb hb').mp h⟩
  · rintro ⟨hfile, r, b, r', b', hb, hb', hne, h⟩
    exact ⟨hfile, r, b, r', b', hb, hb', hne, (halike r b r' b' hb hb').mpr h⟩

variable (options records)

/-- **The laws of set similarity, and what they mean for scans.** The laws hold of all finite sets of elements of
    any type, if each has fewer than two to the power 52 of them. Whatever is scanned and wherever the scan is
    stopped, a reported similarity is at least the threshold and at most one. At the threshold one, the pairs
    that are reported are those of items with the same tokens that are not left to the exact groups. -/
theorem jaccard_laws (stop : Nat → Bool) (session : Session) (turn : Nat → Nat) :
    (∀ (α : Type) [BEq α] [Hashable α] [LawfulBEq α] [LawfulHashable α] (a b : Std.HashSet α),
      a.size < 2 ^ 52 → b.size < 2 ^ 52 → JaccardLaws a b) ∧
      (∀ g ∈ (similarFiles options records stop session turn).groups ++
        (similarBlocks options records stop session turn).groups, SimilarWithin options.threshold g) ∧
      (options.threshold.value? = some 1 → FewTokens records →
        ListsPairs (· < ·) (SameTokensAt options records) (FileGroupAt records)
            (similarFiles options records (fun _ => false) session turn).groups ∧
          ListsPairs (Prod.Lex (· < ·) (· < ·)) (SameBlockTokensAt options records) (BlockGroupAt records)
            (similarBlocks options records (fun _ => false) session turn).groups) := by
  refine ⟨fun _ _ _ _ _ _ _ ha hb => jaccardLaws ha hb, ?_, ?_⟩
  · intro g hg
    rcases List.mem_append.mp hg with hg | hg
    · exact scanPairs_within options hg
    · exact scanPairs_within options hg
  · intro hone hfew
    exact ⟨(similarFiles_listsPairs options records session turn).congr (similarFilesAt_iff_of_one hone hfew),
      (similarBlocks_listsPairs options records session turn).congr (similarBlocksAt_iff_of_one hone hfew)⟩

end Scans

/-- Two files with the same tokens in another order, at the threshold one. -/
theorem jaccard_laws_reordered :
    let tokens := ["x", "y"]
    let reordered := ["y", "x"]
    let records : List FileRecord :=
      [⟨⟨.root, ["a.py"]⟩, "a.py", .python, 3, 1, "first", [], tokens⟩,
        ⟨⟨.root, ["b.py"]⟩, "b.py", .python, 3, 1, "second", [], reordered⟩]
    let options : SimilarityOptions := ⟨.int 1, 2, true, 1⟩
    (jaccard (Std.HashSet.ofList tokens) (.ofList reordered)).value? = some 1 ∧
      options.threshold.value? = some 1 ∧ FewTokens records ∧ SameTokensAt options records 0 1 ∧
      ListsPairs (· < ·) (SameTokensAt options records) (FileGroupAt records)
        (similarFiles options records (fun _ => false) ⟨0, false⟩ fun _ => 0).groups := by
  intro tokens reordered records options
  have hsize : (Std.HashSet.ofList tokens).size = 2 := Std.HashSet.size_ofList (by decide)
  have hsmall : (Std.HashSet.ofList tokens).size < 2 ^ 52 := by omega
  have hsmall' : (Std.HashSet.ofList reordered).size < 2 ^ 52 :=
    Nat.lt_of_le_of_lt Std.HashSet.size_ofList_le (by decide)
  have hsame : ∀ token, token ∈ tokens ↔ token ∈ reordered := by
    intro token
    simp [tokens, reordered, or_comm]
  have hone : options.threshold.value? = some 1 := by simp [options, Number.value?]
  have hfew : FewTokens records := by
    intro r hr
    rcases List.mem_pair.mp hr with rfl | rfl
    · exact ⟨hsmall, fun _ hb => absurd hb List.not_mem_nil⟩
    · exact ⟨hsmall', fun _ hb => absurd hb List.not_mem_nil⟩
  obtain ⟨hlaws, _, hscans⟩ := jaccard_laws options records (fun _ => false) ⟨0, false⟩ fun _ => 0
  have hequal := (hlaws String (.ofList tokens) (.ofList reordered) hsmall hsmall').one_iff.mpr
    (elements_ofList_eq_iff.mpr hsame)
  refine ⟨hequal, hone, hfew, ⟨_, _, rfl, rfl, by decide, ?_, hsame⟩, (hscans hone hfew).1⟩
  show (2 : ℤ) ≤ ((Std.HashSet.ofList tokens).size : ℤ)
  rw [hsize]
  decide

end CodeCensus
