import CodeCensus.Duplicate.Similar
import CodeCensus.Proofs.Jaccard

/-!
# Pruning

A pair whose sizes keep its coefficient below the threshold is not compared. The test for that compares a
rounded quotient with the threshold, and so does the test it stands in for; since the first quotient is
never the smaller one, a pair that is left out would not have been a hit. Nothing that a scan reports or
remembers depends on pruning, as long as the workers take their turns in one order.

## Contents
- `not_reached_of_cannotReach` — what the skip test promises;
- `pairSimilarity?_eq` — the coefficient of a pair, with pruning out of sight;
- `scanPairs_pruned` — a scan with and without pruning.
-/

namespace CodeCensus

/-- Where the sizes rule the threshold out, the coefficient does not reach it. -/
theorem not_reached_of_cannotReach {threshold : Number} {a b : Std.HashSet String}
    (h : cannotReach threshold a.size b.size = true) :
    threshold.le (.double (jaccard a b)) = false := by
  unfold cannotReach at h
  rw [Bool.and_eq_true, decide_eq_true_eq, Number.lt_iff] at h
  obtain ⟨hsize, bound, t, hbound, ht, hlt⟩ := h
  obtain ⟨x, y, hx, hy, hxy⟩ := jaccard_le_sizeBound a b hsize
  -- a coefficient at the threshold would lie above its own bound
  by_contra hle
  rw [Bool.not_eq_false, Number.le_iff] at hle
  obtain ⟨t', x', ht', hx', htx⟩ := hle
  have hty : t' = t := Option.some.inj (ht'.symm.trans ht)
  have hxx : x' = x := Option.some.inj (hx'.symm.trans hx)
  have hyb : bound = y := Option.some.inj (hbound.symm.trans hy)
  subst hty hxx hyb
  exact absurd (htx.trans hxy) (not_le.mpr hlt)

/-- The coefficient of a pair: pruning decides nothing. -/
theorem pairSimilarity?_eq (options : SimilarityOptions) (excluded : Candidate → Candidate → Bool)
    (a b : Candidate) :
    pairSimilarity? options excluded a b =
      if excluded a b then none
      else if options.threshold.le (.double (jaccard a.tokens b.tokens)) then
        some (jaccard a.tokens b.tokens)
      else none := by
  unfold pairSimilarity?
  by_cases hskip : (options.prune && cannotReach options.threshold a.tokens.size b.tokens.size) = true
  · rw [Bool.and_eq_true] at hskip
    simp [hskip.1, hskip.2, not_reached_of_cannotReach hskip.2]
  · simp [hskip]

/-- Rows have the same hits with and without pruning. -/
theorem rowHits_pruned (options : SimilarityOptions) (excluded : Candidate → Candidate → Bool)
    (candidates : List Candidate) :
    rowHits { options with prune := true } excluded candidates =
      rowHits { options with prune := false } excluded candidates := by
  funext row
  unfold rowHits
  simp only [pairSimilarity?_eq]

/-- A scan has the same outcome with and without pruning. -/
theorem scanPairs_pruned (options : SimilarityOptions) (kind : DuplicateKind)
    (excluded : Candidate → Candidate → Bool) (candidates : List Candidate) (stop : Nat → Bool)
    (session : Session) (turn : Nat → Nat) :
    scanPairs { options with prune := true } kind excluded candidates stop session turn =
      scanPairs { options with prune := false } kind excluded candidates stop session turn := by
  unfold scanPairs
  rw [rowHits_pruned]

end CodeCensus
