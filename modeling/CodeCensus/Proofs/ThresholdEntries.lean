import CodeCensus.Proofs.TextKeys
import CodeCensus.Settings.Analysis
import Mathlib.Logic.Function.Basic

/-!
# Thresholds as entries

Thresholds are written as entries of a map, each under its name. The name tells the threshold, so an entry is found
again under it.

## Contents
- `ThresholdKey.ofValue?_eq_some`, `ThresholdKey.name_injective` — names of thresholds;
- `Thresholds.entries`, `Thresholds.lookup?_entries`, `Thresholds.textsApart_entries` — their entries.
-/

namespace CodeCensus

namespace ThresholdKey

variable {key : Value} {k : ThresholdKey}

/-- A key names a threshold only by the text of its name. -/
theorem ofValue?_eq_some : ofValue? key = some k ↔ key = .text k.name := by
  constructor
  · intro h
    cases key with
    | text s =>
        have hname : k.name = s := by simpa using List.find?_some h
        rw [hname]
    | _ => cases h
  · rintro rfl
    cases k <;> rfl

theorem ofValue?_eq_none : ofValue? key = none ↔ ∀ k : ThresholdKey, key ≠ .text k.name := by
  simp only [Ne, ← ofValue?_eq_some]
  exact Option.eq_none_iff_forall_ne_some

theorem name_injective : Function.Injective name := by
  intro k k' h
  have hfirst : ofValue? (.text k.name) = some k := ofValue?_eq_some.mpr rfl
  rw [h, ofValue?_eq_some.mpr rfl] at hfirst
  exact (Option.some.inj hfirst).symm

theorem mem_all (k : ThresholdKey) : k ∈ all := by
  cases k <;> decide

end ThresholdKey

namespace Thresholds

/-- The entries of some thresholds, each under its name. -/
def entries (t : Thresholds) (keys : List ThresholdKey) : List (Value × Value) :=
  keys.map fun k => (.text k.name, (t.get k).toValue)

theorem toValue_eq (t : Thresholds) (keys : List ThresholdKey) : t.toValue keys = .map (t.entries keys) := by
  unfold toValue Value.ofFields entries
  rw [List.map_map]
  rfl

theorem entries_cons (t : Thresholds) (k : ThresholdKey) (keys : List ThresholdKey) :
    t.entries (k :: keys) = (.text k.name, (t.get k).toValue) :: t.entries keys := rfl

theorem lookup?_entries (t : Thresholds) (keys : List ThresholdKey) (key : ThresholdKey) :
    Value.lookup? (t.entries keys) (.text key.name) = if key ∈ keys then some (t.get key).toValue else none := by
  induction keys with
  | nil => rfl
  | cons k rest ih =>
      rw [entries_cons, Value.lookup?_cons, ih]
      by_cases hk : k = key
      · simp [hk, Value.sameKey]
      · have hname : k.name ≠ key.name := fun h => hk (ThresholdKey.name_injective h)
        simp [Value.sameKey, hname, Ne.symm hk]

theorem textsApart_entries (t : Thresholds) {keys : List ThresholdKey} (h : keys.Nodup) :
    Value.TextsApart (t.entries keys) := by
  refine List.pairwise_map.mpr (h.imp ?_)
  intro key key' hne s hs hs'
  exact hne (ThresholdKey.name_injective (Value.text.inj (hs.trans hs'.symm)))

end Thresholds
end CodeCensus
