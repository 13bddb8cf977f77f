import CodeCensus.Value.Basic
import Mathlib.Data.List.Induction

/-!
# Text keys

A text is the same key as itself and as nothing else, so what a map holds under a text is told by the entries
with that very text. Storing and merging keep texts apart that were apart, and a merged map holds under a
text what the later entries say, the last of them winning, or else what it held before.

## Contents
- `Value.sameKey_text`, `Value.text_sameKey` — the same key as a text;
- `Value.TextsApart` — no text is a key twice, with `textsApart_store` and `textsApart_merge`;
- `Value.lookup?_store`, `Value.lookup?_merge` — what is found after storing and merging;
- `Value.lookup?_merge_apart` — the same, if the later entries have their texts apart;
- `Value.merge_eq_append` — merging entries that are all apart.
-/

namespace CodeCensus
namespace Value

variable {s : String}

/-! ## The same key -/

/-- Only a text is the same key as a text, and only if they are equal. -/
theorem sameKey_text {k : Value} : k.sameKey (text s) = true ↔ k = text s := by
  cases k <;> simp [sameKey, asNumber?]

theorem text_sameKey {k : Value} : (text s).sameKey k = true ↔ k = text s := by
  cases k <;> simp [sameKey, asNumber?, eq_comm]

/-- No text is a key of two entries. -/
def TextsApart (entries : List (Value × Value)) : Prop :=
  entries.Pairwise fun e e' => ∀ s, e.1 = text s → e'.1 ≠ text s

theorem textsApart_store {entries : List (Value × Value)} (h : TextsApart entries) (key value : Value) :
    TextsApart (store entries key value) := by
  unfold store
  split
  next =>
    refine List.pairwise_map.mpr (h.imp ?_)
    intro e e' hapart
    split <;> split <;> exact hapart
  next hnew =>
    refine List.pairwise_append.mpr ⟨h, List.pairwise_singleton _ _, ?_⟩
    intro e he e' he' s hs hs'
    obtain rfl := List.mem_singleton.mp he'
    refine hnew (List.any_eq_true.mpr ⟨e, he, ?_⟩)
    rw [hs]
    exact text_sameKey.mpr hs'

theorem textsApart_merge {base : List (Value × Value)} (h : TextsApart base)
    (later : List (Value × Value)) : TextsApart (merge base later) := by
  unfold merge
  induction later generalizing base with
  | nil => exact h
  | cons e rest ih => exact ih (textsApart_store h e.1 e.2)

/-! ## Look-ups -/

theorem lookup?_cons (key value : Value) (rest : List (Value × Value)) :
    lookup? ((key, value) :: rest) (text s) =
      if key.sameKey (text s) then some value else lookup? rest (text s) := by
  unfold lookup?
  rw [List.find?_cons]
  cases key.sameKey (text s) <;> rfl

theorem lookup?_append (front back : List (Value × Value)) :
    lookup? (front ++ back) (text s) = (lookup? front (text s)).or (lookup? back (text s)) := by
  unfold lookup?
  rw [List.find?_append, Option.map_or]

theorem lookup?_eq_none {entries : List (Value × Value)} :
    lookup? entries (text s) = none ↔ ∀ e ∈ entries, e.1 ≠ text s := by
  simp [lookup?, List.find?_eq_none, sameKey_text]

/-- New values under a key do not show under other texts. -/
theorem lookup?_replace (entries : List (Value × Value)) (key value : Value) :
    lookup? (entries.map fun e => if e.1.sameKey key then (e.1, value) else e) (text s) =
      if key.sameKey (text s) then (lookup? entries (text s)).map fun _ => value
      else lookup? entries (text s) := by
  induction entries with
  | nil => simp [lookup?]
  | cons e rest ih =>
      obtain ⟨k, v⟩ := e
      rw [List.map_cons, lookup?_cons]
      by_cases hk : k.sameKey key = true
      · rw [if_pos hk, lookup?_cons, ih]
        by_cases hs : k.sameKey (text s) = true
        · have hkey : key.sameKey (text s) = true := by
            rw [sameKey_text.mp hs] at hk
            exact sameKey_text.mpr (text_sameKey.mp hk)
          simp [hs, hkey]
        · simp [hs]
      · rw [if_neg hk, lookup?_cons, ih]
        by_cases hs : k.sameKey (text s) = true
        · have hkey : ¬ key.sameKey (text s) = true := fun hkey => by
            rw [sameKey_text.mp hkey] at hk
            exact hk hs
          simp [hs, hkey]
        · simp [hs]

/-- Under a text stands what was stored under it last. -/
theorem lookup?_store (entries : List (Value × Value)) (key value : Value) :
    lookup? (store entries key value) (text s) =
      if key.sameKey (text s) then some value else lookup? entries (text s) := by
  unfold store
  split
  next hany =>
    rw [lookup?_replace]
    split
    next hkey =>
      obtain ⟨e, he, hsame⟩ := List.any_eq_true.mp hany
      rw [sameKey_text.mp hkey] at hsame
      cases hfound : lookup? entries (text s) with
      | none => exact absurd (sameKey_text.mp hsame) (lookup?_eq_none.mp hfound e he)
      | some _ => rfl
    next => rfl
  next hnew =>
    rw [lookup?_append, lookup?_cons]
    split
    next hkey =>
      have hnone : lookup? entries (text s) = none := by
        refine lookup?_eq_none.mpr fun e he hs => hnew (List.any_eq_true.mpr ⟨e, he, ?_⟩)
        rw [hs, sameKey_text.mp hkey]
        exact sameKey_text.mpr rfl
      rw [hnone, Option.none_or]
    next => exact Option.or_none

/-- **What a merged map holds under a text**: what the last of the later entries with that text says, or else
    what was there before. -/
theorem lookup?_merge (base later : List (Value × Value)) :
    lookup? (merge base later) (text s) =
      (lookup? later.reverse (text s)).or (lookup? base (text s)) := by
  induction later using List.reverseRecOn with
  | nil => rfl
  | append_singleton front e ih =>
      have hstore : merge base (front ++ [e]) = store (merge base front) e.1 e.2 := by
        simp only [merge, List.foldl_append, List.foldl_cons, List.foldl_nil]
      rw [hstore, lookup?_store, ih, List.reverse_append, List.reverse_singleton, List.singleton_append,
        lookup?_cons]
      split <;> rfl

theorem lookup?_eq_some {entries : List (Value × Value)} (h : TextsApart entries) {v : Value} :
    lookup? entries (text s) = some v ↔ (text s, v) ∈ entries := by
  induction entries with
  | nil => simp [lookup?]
  | cons e rest ih =>
      obtain ⟨k, w⟩ := e
      obtain ⟨hfirst, hrest⟩ := List.pairwise_cons.mp h
      rw [lookup?_cons, List.mem_cons]
      split
      next hk =>
        obtain rfl := sameKey_text.mp hk
        have hnot : (text s, v) ∉ rest := fun hmem => hfirst _ hmem s rfl rfl
        simp [hnot, eq_comm]
      next hk =>
        have hne : k ≠ text s := fun hk' => hk (sameKey_text.mpr hk')
        simp [ih hrest, Ne.symm hne]

/-- With the texts apart, it does not matter from which end entries are looked through. -/
theorem lookup?_reverse {entries : List (Value × Value)} (h : TextsApart entries) :
    lookup? entries.reverse (text s) = lookup? entries (text s) := by
  have hreverse : TextsApart entries.reverse :=
    List.pairwise_reverse.mpr (h.imp fun hapart s hs hs' => hapart s hs' hs)
  apply Option.ext
  intro v
  rw [lookup?_eq_some hreverse, lookup?_eq_some h, List.mem_reverse]

/-- With the texts of the later entries apart, it does not matter which of them comes last. -/
theorem lookup?_merge_apart (base : List (Value × Value)) {later : List (Value × Value)}
    (h : TextsApart later) :
    lookup? (merge base later) (text s) = (lookup? later (text s)).or (lookup? base (text s)) := by
  rw [lookup?_merge, lookup?_reverse h]

/-- **Entries under texts that are all apart are merged by putting them one after another.** -/
theorem merge_eq_append {base later : List (Value × Value)} (htexts : ∀ e ∈ later, ∃ s, e.1 = text s)
    (hapart : TextsApart (base ++ later)) : merge base later = base ++ later := by
  induction later generalizing base with
  | nil => exact (List.append_nil base).symm
  | cons e rest ih =>
      obtain ⟨⟨s, hs⟩, hrest⟩ := List.forall_mem_cons.mp htexts
      have hnew : (base.any fun e' => e'.1.sameKey e.1) = false := by
        rw [List.any_eq_false]
        intro e' he' hsame
        rw [hs] at hsame
        exact (List.pairwise_append.mp hapart).2.2 e' he' e List.mem_cons_self s (sameKey_text.mp hsame) hs
      have hstore : store base e.1 e.2 = base ++ [e] := by
        rw [store, hnew]
        rfl
      have hsplit : base ++ e :: rest = base ++ [e] ++ rest := by rw [List.append_assoc, List.singleton_append]
      rw [hsplit] at hapart ⊢
      rw [← ih hrest hapart, ← hstore]
      rfl

end Value
end CodeCensus
