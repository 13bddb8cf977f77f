import CodeCensus.OrderedMap
import Mathlib.Algebra.BigOperators.Group.Finset.Piecewise
import Mathlib.Data.List.Induction
import Mathlib.Data.List.Nodup

/-!
# Collecting by key

Items are gone through once, and each of them is added to what an ordered map has under the key of the item.
What comes out can be said without going through them: the different keys in the order in which they first
occur, each with what the items that have it add up to. Whatever is summed over the keys in this way is
summed over all items.

## Contents
- `eraseDups_concat`, `nodup_eraseDups` — the different elements of a list;
- `collect`, `collect_entries` — the result of collecting;
- `sum_by_key` — a sum over keys of sums over items.
-/

namespace CodeCensus

variable {κ α β : Type} [DecidableEq κ]

/-! ## Different elements -/

theorem eraseDups_concat (xs : List κ) (x : κ) :
    (xs ++ [x]).eraseDups = if x ∈ xs then xs.eraseDups else xs.eraseDups ++ [x] := by
  by_cases h : x ∈ xs <;> simp [List.eraseDups_append, List.removeAll, List.eraseDups_cons, h]

theorem nodup_eraseDups (xs : List κ) : xs.eraseDups.Nodup := by
  induction xs using List.reverseRecOn with
  | nil => simp
  | append_singleton xs x ih =>
      rw [eraseDups_concat]
      split
      next => exact ih
      next h =>
        rw [List.nodup_append]
        refine ⟨ih, List.nodup_singleton x, ?_⟩
        intro y hy z hz heq
        rw [List.mem_singleton.mp hz] at heq
        exact h (heq ▸ List.mem_eraseDups.mp hy)

/-! ## Collecting -/

/-- Adds each item to the value under its key; a new key has the value `start` before. -/
def collect (key : α → κ) (start : β) (extend : β → α → β) (items : List α) : OrderedMap κ β :=
  items.foldl (fun m x => m.upsert (key x) (extend start x) (extend · x)) .empty

variable (key : α → κ) (start : β) (extend : β → α → β)

theorem collect_concat (items : List α) (x : α) :
    collect key start extend (items ++ [x]) =
      (collect key start extend items).upsert (key x) (extend start x) (extend · x) := by
  simp [collect]

/-- **The result of collecting.** By induction on the items from the last one: its key is there if it has
    occurred before, and is a new one at the end if not. -/
theorem collect_entries (items : List α) :
    (collect key start extend items).entries = (items.map key).eraseDups.map fun k =>
      (k, (items.filter fun x => key x = k).foldl extend start) := by
  induction items using List.reverseRecOn with
  | nil => simp [collect, OrderedMap.empty]
  | append_singleton items x ih =>
      have hcontains : (collect key start extend items).contains (key x) = true ↔
          key x ∈ items.map key := by
        simp [OrderedMap.contains, ih]
      rw [collect_concat, OrderedMap.upsert, List.map_append, List.map_singleton, eraseDups_concat]
      by_cases hold : key x ∈ items.map key
      · rw [if_pos (hcontains.mpr hold), if_pos hold, ih, List.map_map]
        apply List.map_congr_left
        intro k _
        by_cases hk : k = key x
        · simp [List.filter_append, hk]
        · simp [List.filter_append, hk, Ne.symm hk]
      · rw [if_neg (mt hcontains.mp hold), if_neg hold, ih, List.map_append, List.map_singleton]
        have hnone : items.filter (fun y => decide (key y = key x)) = [] := by
          rw [List.filter_eq_nil_iff]
          intro y hy hkey
          exact hold (List.mem_map.mpr ⟨y, hy, of_decide_eq_true hkey⟩)
        have hothers : (items.map key).eraseDups.map
              (fun k => (k, (items.filter fun y => key y = k).foldl extend start)) =
            (items.map key).eraseDups.map
              fun k => (k, ((items ++ [x]).filter fun y => key y = k).foldl extend start) := by
          apply List.map_congr_left
          intro k hk
          have hne : key x ≠ k := fun heq => hold (heq ▸ List.mem_eraseDups.mp hk)
          simp [List.filter_append, hne]
        rw [hothers]
        simp [List.filter_append, hnone]

/-! ## Sums -/

/-- When each item has its key among different keys, sums over the items with one key add up to the sum over
    all items. -/
theorem sum_by_key {M : Type} [AddCommMonoid M] (figure : α → M) {keys : List κ} (hkeys : keys.Nodup)
    {items : List α} (hitems : ∀ x ∈ items, key x ∈ keys) :
    (keys.map fun k => ((items.filter fun x => key x = k).map figure).sum).sum =
      (items.map figure).sum := by
  induction items with
  | nil => simp
  | cons x rest ih =>
      obtain ⟨hx, hrest⟩ := List.forall_mem_cons.mp hitems
      have hsplit : ∀ k, (((x :: rest).filter fun y => key y = k).map figure).sum =
          (if key x = k then figure x else 0) + ((rest.filter fun y => key y = k).map figure).sum := by
        intro k
        by_cases hk : key x = k
        · simp [hk]
        · simp [hk]
      have hfirst : (keys.map fun k => if key x = k then figure x else 0).sum = figure x := by
        rw [← List.sum_toFinset _ hkeys, Finset.sum_ite_eq, if_pos (List.mem_toFinset.mpr hx)]
      simp only [hsplit, List.sum_map_add, hfirst, ih hrest, List.map_cons, List.sum_cons]

end CodeCensus
