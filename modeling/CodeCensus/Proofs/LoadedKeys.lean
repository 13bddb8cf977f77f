import CodeCensus.Proofs.TextKeys
import CodeCensus.Settings.Document
import Mathlib.Data.List.Forall2

/-!
# Keys of loaded documents

A mapping that writes a key twice, or gets it through a merge, has it once when it is loaded: its entries are
stored one by one under keys that were made before, and what was made of a node stays. So in a loaded
document no text is a key twice, neither of the document itself nor of the maps in it.

## Contents
- `foldlM_invariant`, `mapM_eq_ok_iff`, `mapM_eq_error_iff` — steps that can fail, along a list;
- `Assembly.Extends` — how an assembly may grow while nodes are made;
- `Assembly.KeysApart`, `Assembly.storeEntry_keysApart` — entries with keys that were made and are apart;
- `Assembly.Sound` — what holds of an assembly all along, with its step lemma `Sound.fill` and its run lemma
  `Sound.finish`;
- `Assembly.Sound.valueIn_eq_map` — where the maps among the values come from;
- `Value.SectionsApart`, `loadStream_sectionsApart`, `FileSystem.readDocument_sectionsApart` — the keys of a
  loaded document.
-/

namespace CodeCensus

/-! ## Steps that can fail -/

theorem Except.bind_eq_ok {ε α β : Type} {x : Except ε α} {f : α → Except ε β} {r : β} :
    x >>= f = .ok r ↔ ∃ a, x = .ok a ∧ f a = .ok r := by
  cases x <;> simp [bind, Except.bind]

/-- What holds at the start of a fold and is kept by its steps holds at its end. -/
theorem foldlM_invariant {ε α β : Type} {P : β → Prop} {f : β → α → Except ε β}
    (hstep : ∀ b x b', P b → f b x = .ok b' → P b') {xs : List α} {b r : β} (hstart : P b)
    (h : xs.foldlM f b = .ok r) : P r := by
  induction xs generalizing b with
  | nil =>
      cases h
      exact hstart
  | cons x xs ih =>
      rw [List.foldlM_cons] at h
      obtain ⟨b', hx, h⟩ := Except.bind_eq_ok.mp h
      exact ih (hstep b x b' hstart hx) h

/-- A walk along a list ends well exactly when each item has its result. -/
theorem mapM_eq_ok_iff {α β ε : Type} {f : α → Except ε β} {xs : List α} {ys : List β} :
    xs.mapM f = .ok ys ↔ List.Forall₂ (fun x y => f x = .ok y) xs ys := by
  induction xs generalizing ys with
  | nil => cases ys <;> simp [pure, Except.pure]
  | cons x xs ih =>
      rw [List.mapM_cons]
      cases hx : f x with
      | error e => cases ys <;> simp [bind, Except.bind, hx]
      | ok y =>
          cases hxs : xs.mapM f with
          | error e => cases ys <;> simp [bind, Except.bind, hx, ← ih, hxs]
          | ok zs => cases ys <;> simp [bind, Except.bind, pure, Except.pure, hx, ← ih, hxs]

/-- Otherwise it ends at the first item that has none. -/
theorem mapM_eq_error_iff {α β ε : Type} {f : α → Except ε β} {xs : List α} {e : ε} :
    xs.mapM f = .error e ↔
      ∃ before x after, xs = before ++ x :: after ∧ (∀ z ∈ before, ∃ y, f z = .ok y) ∧ f x = .error e := by
  induction xs with
  | nil => simp [pure, Except.pure]
  | cons x xs ih =>
      rw [List.mapM_cons]
      cases hx : f x with
      | error e' =>
          constructor
          · intro h
            cases h
            exact ⟨[], x, xs, rfl, by simp, hx⟩
          · rintro ⟨_ | ⟨z, before⟩, x', after, heq, hbefore, he⟩
            · cases heq
              rw [hx] at he
              cases he
              rfl
            · -- the first item would have to have a result
              cases heq
              obtain ⟨y, hy⟩ := hbefore x List.mem_cons_self
              rw [hx] at hy
              cases hy
      | ok y =>
          have htail : (Except.ok y >>= fun y => xs.mapM f >>= fun ys => pure (y :: ys)) = .error e ↔
              xs.mapM f = .error e := by
            cases xs.mapM f <;> simp [bind, Except.bind, pure, Except.pure]
          rw [htail, ih]
          constructor
          · rintro ⟨before, x', after, rfl, hbefore, he⟩
            exact ⟨x :: before, x', after, rfl, List.forall_mem_cons.mpr ⟨⟨y, hx⟩, hbefore⟩, he⟩
          · rintro ⟨_ | ⟨z, before⟩, x', after, heq, hbefore, he⟩
            · cases heq
              rw [hx] at he
              cases he
            · cases heq
              exact ⟨before, x', after, rfl, (List.forall_mem_cons.mp hbefore).2, he⟩

/-- No text is a key of the document twice, nor of a map in it. -/
def Value.SectionsApart (v : Value) : Prop :=
  ∀ sections, v = .map sections →
    TextsApart sections ∧ ∀ e ∈ sections, ∀ entries, e.2 = .map entries → TextsApart entries

namespace Yaml

/-! ## Scalars -/

/-- If there is a value, it is no map. -/
def NoMap (outcome : Except Fault Value) : Prop := ∀ v, outcome = .ok v → mapEntries? v = none

theorem noMap_error (fault : Fault) : NoMap (.error fault) := by
  intro v h
  cases h

theorem noMap_ok {v : Value} (h : mapEntries? v = none) : NoMap (.ok v) := by
  intro w hw
  cases hw
  exact h

theorem noMap_bind {α : Type} {x : Except Fault α} {f : α → Except Fault Value} (h : ∀ y, NoMap (f y)) :
    NoMap (x >>= f) := by
  intro v hv
  obtain ⟨y, _, hv⟩ := Except.bind_eq_ok.mp hv
  exact h y v hv

theorem noMap_truthValue (text : String) : NoMap (truthValue text) := by
  unfold truthValue
  dsimp only
  split
  next => exact noMap_ok rfl
  next =>
    split
    next => exact noMap_ok rfl
    next => exact noMap_error _

theorem noMap_integerValue (text : String) : NoMap (integerValue text) := by
  unfold integerValue
  split
  next => exact noMap_error _
  all_goals exact noMap_bind fun _ => noMap_ok rfl

theorem noMap_floatValue (text : String) : NoMap (floatValue text) := by
  unfold floatValue
  split
  next => exact noMap_error _
  all_goals exact noMap_bind fun _ => noMap_ok rfl

theorem noMap_timestampValue (text : String) : NoMap (timestampValue text) := by
  unfold timestampValue
  split
  next => exact noMap_error _
  next =>
    split
    next => exact noMap_bind fun _ => noMap_ok rfl
    next =>
      have hmoment : ∀ (x : Except Fault Date) (y : Except Fault TimeOfDay) (offset : Option Int),
          NoMap (do return .moment ⟨← x, ← y, offset⟩) :=
        fun _ _ _ => noMap_bind fun _ => noMap_bind fun _ => noMap_ok rfl
      dsimp only
      split
      next =>
        split
        next => exact noMap_bind fun _ => hmoment _ _ _
        next => exact hmoment _ _ _
      next => exact hmoment _ _ _

theorem noMap_binaryValue (text : String) : NoMap (binaryValue text) := by
  unfold binaryValue
  dsimp only
  split
  next =>
    split
    next => exact noMap_ok rfl
    next => exact noMap_error _
  next => exact noMap_error _

/-- No scalar is a map. -/
theorem noMap_scalarValue? {tag text : String} {outcome : Except Fault Value}
    (h : scalarValue? tag text = some outcome) : NoMap outcome := by
  unfold scalarValue? at h
  split_ifs at h <;> cases h
  · exact noMap_ok rfl
  · exact noMap_ok rfl
  · exact noMap_truthValue text
  · exact noMap_integerValue text
  · exact noMap_floatValue text
  · exact noMap_timestampValue text
  · exact noMap_binaryValue text

theorem Graph.noMap_scalarValue (g : Graph) (id : Nat) : NoMap (g.scalarValue id) := by
  unfold Graph.scalarValue
  dsimp only
  split
  next => exact noMap_error _
  next =>
    refine noMap_bind fun text => ?_
    split
    next => exact noMap_error _
    next =>
      cases hvalue : scalarValue? (g.node id).tag text with
      | none => exact noMap_error _
      | some outcome => exact noMap_scalarValue? hvalue

theorem mapEntries?_marked (mark : Nat) (v : Value) : mapEntries? (v.marked mark) = mapEntries? v := by
  unfold Value.marked
  split <;> rfl

namespace Assembly

variable {a b c : Assembly}

/-! ## Making nodes -/

/-- What was made of a node stays, what is made anew is no map, and no collection is filled. -/
structure Extends (a b : Assembly) : Prop where
  kept : ∀ id m, a.made? id = some m → b.made? id = some m
  fresh : ∀ id v, b.made? id = some (.scalar v) →
    a.made? id = some (.scalar v) ∨ mapEntries? v = none
  filled : b.filled = a.filled

/-- Only what was made and what was filled counts. -/
theorem extends_of_eq (hmade : b.made = a.made) (hfilled : b.filled = a.filled) : a.Extends b := by
  have hsame : ∀ id, b.made? id = a.made? id := by
    intro id
    unfold made?
    rw [hmade]
  refine ⟨?_, ?_, hfilled⟩
  · intro id m h
    rw [hsame, h]
  · intro id v h
    exact .inl ((hsame id).symm.trans h)

theorem Extends.trans (hab : a.Extends b) (hbc : b.Extends c) : a.Extends c where
  kept id m h := hbc.kept id m (hab.kept id m h)
  fresh id v h := (hbc.fresh id v h).elim (hab.fresh id v) .inr
  filled := hbc.filled.trans hab.filled

/-- Making one more node extends an assembly. -/
theorem extends_set {id : Nat} {m : Made} (hnew : a.made? id = none)
    (hmap : ∀ v, m = .scalar v → mapEntries? v = none) (waiting : List Nat) :
    a.Extends { a with made := a.made.setIfInBounds id (some m), waiting } := by
  have hmade : ∀ i, ({ a with made := a.made.setIfInBounds id (some m), waiting } : Assembly).made? i =
      if id = i ∧ id < a.made.size then some m else a.made? i := by
    intro i
    unfold made?
    rw [Array.getElem?_setIfInBounds]
    by_cases hi : id = i
    · subst hi
      by_cases hsize : id < a.made.size <;> simp [hsize]
    · simp [hi]
  refine ⟨?_, ?_, rfl⟩
  · intro i m' h
    rw [hmade, if_neg]
    · exact h
    · rintro ⟨rfl, _⟩
      rw [hnew] at h
      cases h
  · intro i v h
    rw [hmade] at h
    split at h
    next => exact .inr (hmap v (Option.some.inj h))
    next => exact .inl h

theorem make_extends {id : Nat} (h : a.make id = .ok b) : a.Extends b := by
  unfold make at h
  split at h
  next =>
    cases h
    exact extends_of_eq rfl rfl
  next hnew =>
    have hnone : a.made? id = none := by simpa using hnew
    split at h
    next =>
      cases h
      exact extends_set hnone (by simp) _
    next =>
      obtain ⟨v, hv, h⟩ := Except.bind_eq_ok.mp h
      cases h
      refine extends_set hnone ?_ _
      intro w hw
      cases hw
      rw [mapEntries?_marked]
      exact Graph.noMap_scalarValue _ _ v hv

theorem makeKey_extends {id : Nat} (h : a.makeKey id = .ok b) :
    a.Extends b ∧ ∃ v, b.made? id = some (.scalar v) := by
  unfold makeKey at h
  obtain ⟨a', hmake, h⟩ := Except.bind_eq_ok.mp h
  split at h
  next v hv =>
    cases h
    exact ⟨make_extends hmake, v, hv⟩
  next => cases h

/-! ## Entries -/

/-- Each key was made, and no text was made of two of them. -/
structure KeysApart (a : Assembly) (entries : List (Nat × Nat)) : Prop where
  made : ∀ e ∈ entries, ∃ v, a.made? e.1 = some (.scalar v)
  apart : entries.Pairwise fun e e' =>
    ∀ s, a.made? e.1 = some (.scalar (.text s)) → a.made? e'.1 ≠ some (.scalar (.text s))

theorem KeysApart.mono {entries : List (Nat × Nat)} (h : a.KeysApart entries) (hab : a.Extends b) :
    b.KeysApart entries := by
  -- a key that was made cannot become another one
  have hback : ∀ e ∈ entries, ∀ m, b.made? e.1 = some m → a.made? e.1 = some m := by
    intro e he m hm
    obtain ⟨v, hv⟩ := h.made e he
    rw [hv, ← hm, hab.kept e.1 _ hv]
  refine ⟨?_, ?_⟩
  · intro e he
    obtain ⟨v, hv⟩ := h.made e he
    exact ⟨v, hab.kept e.1 _ hv⟩
  · refine h.apart.imp_of_mem ?_
    intro e e' he he' hne s hs hs'
    exact hne s (hback e he _ hs) (hback e' he' _ hs')

/-- A stored entry takes the place of the one with its key. -/
theorem storeEntry_keysApart {entries : List (Nat × Nat)} {e : Nat × Nat} (h : a.KeysApart entries)
    (hkey : ∃ v, a.made? e.1 = some (.scalar v)) : a.KeysApart (a.storeEntry entries e) := by
  unfold storeEntry
  split
  next =>
    refine ⟨?_, List.pairwise_map.mpr (h.apart.imp ?_)⟩
    · intro o' ho'
      obtain ⟨o, ho, rfl⟩ := List.mem_map.mp ho'
      split <;> exact h.made o ho
    · intro o o' hne
      split <;> split <;> exact hne
  next hnew =>
    refine ⟨?_, List.pairwise_append.mpr ⟨h.apart, List.pairwise_singleton _ _, ?_⟩⟩
    · intro o ho
      rcases List.mem_append.mp ho with ho | ho
      · exact h.made o ho
      · rw [List.mem_singleton.mp ho]
        exact hkey
    · intro o ho e' he' s hs hs'
      obtain rfl := List.mem_singleton.mp he'
      refine hnew (List.any_eq_true.mpr ⟨o, ho, ?_⟩)
      simp [sameKey, hs, hs', Value.sameKey]

theorem makeEntries_keysApart {id : Nat} {entries : List (Nat × Nat)}
    (h : a.makeEntries id = .ok (b, entries)) : a.Extends b ∧ b.KeysApart entries := by
  unfold makeEntries at h
  split at h
  next =>
    obtain ⟨g, _, h⟩ := Except.bind_eq_ok.mp h
    refine foldlM_invariant (P := fun s => a.Extends s.1 ∧ s.1.KeysApart s.2) ?_ ?_ h
    · rintro ⟨a₀, entries₀⟩ e ⟨a₁, entries₁⟩ ⟨hextends, hkeys⟩ hstep
      obtain ⟨a', hkey, hstep⟩ := Except.bind_eq_ok.mp hstep
      obtain ⟨a'', hvalue, hstep⟩ := Except.bind_eq_ok.mp hstep
      cases hstep
      obtain ⟨hext', v, hv⟩ := makeKey_extends hkey
      have hext'' := make_extends hvalue
      exact ⟨(hextends.trans hext').trans hext'',
        storeEntry_keysApart (hkeys.mono (hext'.trans hext'')) ⟨v, hext''.kept _ _ hv⟩⟩
    · exact ⟨extends_of_eq rfl rfl, by simp, .nil⟩
  next => cases h

theorem makePairs_extends {id : Nat} {pairs : List (Nat × Nat)} (h : a.makePairs id = .ok (b, pairs)) :
    a.Extends b := by
  unfold makePairs at h
  split at h
  next =>
    refine foldlM_invariant (P := fun s => a.Extends s.1) ?_ (extends_of_eq rfl rfl) h
    rintro ⟨a₀, pairs₀⟩ item ⟨a₁, pairs₁⟩ hextends hstep
    dsimp only at hstep
    split at hstep
    next =>
      obtain ⟨a', hfirst, hstep⟩ := Except.bind_eq_ok.mp hstep
      obtain ⟨a'', hsecond, hstep⟩ := Except.bind_eq_ok.mp hstep
      cases hstep
      exact (hextends.trans (make_extends hfirst)).trans (make_extends hsecond)
    next => cases hstep
  next => cases h

theorem makeItems_extends {id : Nat} {items : List Nat} (h : a.makeItems id = .ok (b, items)) :
    a.Extends b := by
  unfold makeItems at h
  split at h
  next =>
    obtain ⟨a', hfold, h⟩ := Except.bind_eq_ok.mp h
    cases h
    refine foldlM_invariant (P := a.Extends) ?_ (extends_of_eq rfl rfl) hfold
    intro _ _ _ hextends hmake
    exact hextends.trans (make_extends hmake)
  next => cases h

/-! ## Filling -/

/-- No map was made of a scalar, and every mapping that was filled has its keys apart. -/
structure Sound (a : Assembly) : Prop where
  scalars : ∀ id v, a.made? id = some (.scalar v) → mapEntries? v = none
  keys : ∀ id entries, a.filling? id = some (.entries entries) → a.KeysApart entries

theorem sound_start (g : Graph) : (start g).Sound := by
  have hnone : ∀ {α : Type} (n id : Nat), ((Array.replicate n (none : Option α))[id]?).getD none = none := by
    intro α n id
    rw [Array.getElem?_replicate]
    split <;> rfl
  refine ⟨?_, ?_⟩
  · intro id v h
    rw [made?, start, hnone] at h
    cases h
  · intro id entries h
    rw [filling?, start, hnone] at h
    cases h

theorem Sound.extends (h : a.Sound) (hab : a.Extends b) : b.Sound := by
  refine ⟨?_, ?_⟩
  · intro id v hv
    rcases hab.fresh id v hv with hold | hmap
    · exact h.scalars id v hold
    · exact hmap
  · intro id entries hfilling
    rw [filling?, hab.filled] at hfilling
    exact (h.keys id entries hfilling).mono hab

theorem Sound.setFilling {id : Nat} {f : Filling} (h : a.Sound)
    (hf : ∀ entries, f = .entries entries → a.KeysApart entries) : (a.setFilling id f).Sound := by
  refine ⟨h.scalars, ?_⟩
  intro i entries hfilling
  have hcases : (a.setFilling id f).filling? i = some f ∨
      (a.setFilling id f).filling? i = none ∨ (a.setFilling id f).filling? i = a.filling? i := by
    unfold filling? Assembly.setFilling
    rw [Array.getElem?_setIfInBounds]
    split
    next => split <;> simp
    next => simp
  have hkeys : a.KeysApart entries := by
    rcases hcases with hnew | hnone | hold
    · exact hf entries (Option.some.inj (hnew.symm.trans hfilling))
    · rw [hnone] at hfilling
      cases hfilling
    · exact h.keys i entries (hold.symm.trans hfilling)
  exact ⟨hkeys.made, hkeys.apart⟩

/-- Filling a collection keeps an assembly sound. -/
theorem Sound.fill {id : Nat} (h : a.Sound) (hfill : a.fill id = .ok b) : b.Sound := by
  unfold Assembly.fill at hfill
  dsimp only at hfill
  split at hfill
  next =>
    obtain ⟨⟨a', items⟩, hitems, hfill⟩ := Except.bind_eq_ok.mp hfill
    cases hfill
    exact (h.extends (makeItems_extends hitems)).setFilling (by simp)
  next =>
    split at hfill
    next =>
      obtain ⟨⟨a', entries⟩, hentries, hfill⟩ := Except.bind_eq_ok.mp hfill
      cases hfill
      obtain ⟨hextends, hkeys⟩ := makeEntries_keysApart hentries
      refine (h.extends hextends).setFilling ?_
      rintro _ ⟨⟩
      exact hkeys
    next =>
      split at hfill
      next =>
        obtain ⟨⟨a', entries⟩, hentries, hfill⟩ := Except.bind_eq_ok.mp hfill
        cases hfill
        exact (h.extends (makeEntries_keysApart hentries).1).setFilling (by simp)
      next =>
        obtain ⟨⟨a', pairs⟩, hpairs, hfill⟩ := Except.bind_eq_ok.mp hfill
        cases hfill
        exact (h.extends (makePairs_extends hpairs)).setFilling (by simp)

/-- Filling level after level keeps an assembly sound. -/
theorem Sound.finish {fuel : Nat} (h : a.Sound) (hfinish : a.finish fuel = .ok b) : b.Sound := by
  induction fuel generalizing a with
  | zero =>
      cases hfinish
      exact h
  | succ fuel ih =>
      unfold Assembly.finish at hfinish
      split at hfinish
      next =>
        cases hfinish
        exact h
      next =>
        obtain ⟨a', hlevel, hfinish⟩ := Except.bind_eq_ok.mp hfinish
        have hstart : Sound { a with waiting := [] } := h.extends (extends_of_eq rfl rfl)
        exact ih (foldlM_invariant (fun _ _ _ => Sound.fill) hstart hlevel) hfinish

/-! ## Values -/

theorem scalar_eq_text {id : Nat} {s : String} (h : a.scalar id = .text s) :
    a.made? id = some (.scalar (.text s)) := by
  unfold scalar at h
  split at h
  next v hv => rw [hv, h]
  next => cases h

/-- A map among the values of a sound assembly comes from a mapping that was filled. -/
theorem Sound.valueIn_eq_map {fuel parts id : Nat} {path : List Nat} {entries : List (Value × Value)}
    (h : a.Sound) (hvalue : a.valueIn fuel parts path id = .map entries) :
    ∃ ids, a.filling? id = some (.entries ids) ∧ ∃ fuel' parts' path',
      entries = ids.map fun e => (a.scalar e.1, a.valueIn fuel' parts' path' e.2) := by
  cases fuel with
  | zero => cases hvalue
  | succ fuel =>
      unfold valueIn at hvalue
      dsimp only at hvalue
      split at hvalue
      next =>
        -- a scalar is no map
        unfold scalar at hvalue
        split at hvalue
        next v hv =>
          have hmap := h.scalars id v hv
          rw [hvalue] at hmap
          cases hmap
        next => cases hvalue
      next => split at hvalue <;> cases hvalue
      next => split at hvalue <;> cases hvalue
      next ids hfilling =>
        split at hvalue
        next => cases hvalue
        next =>
          cases hvalue
          exact ⟨ids, hfilling, _, _, _, rfl⟩
      next => cases hvalue

theorem Sound.textsApart_valueIn {fuel parts id : Nat} {path : List Nat} {entries : List (Value × Value)}
    (h : a.Sound) (hvalue : a.valueIn fuel parts path id = .map entries) : Value.TextsApart entries := by
  obtain ⟨ids, hfilling, _, _, _, rfl⟩ := h.valueIn_eq_map hvalue
  refine List.pairwise_map.mpr ((h.keys id ids hfilling).apart.imp ?_)
  intro e e' hne s hs hs'
  exact hne s (scalar_eq_text hs) (scalar_eq_text hs')

theorem Sound.sectionsApart_valueIn (h : a.Sound) (fuel parts : Nat) (path : List Nat) (id : Nat) :
    (a.valueIn fuel parts path id).SectionsApart := by
  intro sections hvalue
  refine ⟨h.textsApart_valueIn hvalue, ?_⟩
  obtain ⟨ids, _, _, _, _, rfl⟩ := h.valueIn_eq_map hvalue
  intro e he entries hentries
  obtain ⟨e', _, rfl⟩ := List.mem_map.mp he
  exact h.textsApart_valueIn hentries

end Assembly

theorem sectionsApart_assemble {g : Graph} {root parts : Nat} {v : Value}
    (h : assemble g root parts = .ok v) : v.SectionsApart := by
  unfold assemble at h
  obtain ⟨a, hmake, h⟩ := Except.bind_eq_ok.mp h
  obtain ⟨a', hfinish, h⟩ := Except.bind_eq_ok.mp h
  cases h
  have hsound := ((Assembly.sound_start g).extends (Assembly.make_extends hmake)).finish hfinish
  exact hsound.sectionsApart_valueIn _ _ _ _

/-- **The keys of a loaded document.** No text is a key of it twice, nor of a map in it. -/
theorem loadStream_sectionsApart {parts : Nat} {stream : Stream} {v : Value}
    (h : loadStream parts stream = .ok v) : v.SectionsApart := by
  unfold loadStream at h
  obtain ⟨document, _, h⟩ := Except.bind_eq_ok.mp h
  cases document with
  | none =>
      cases h
      intro sections hnull
      cases hnull
  | some parsed => exact sectionsApart_assemble h

end Yaml

theorem FileSystem.readDocument_sectionsApart {fs : FileSystem} {path : Path} {given : Value}
    (h : fs.readDocument path = .ok given) : given.SectionsApart := by
  unfold FileSystem.readDocument at h
  split at h
  next => cases h
  next bytes _ =>
    cases hload : Yaml.loadStream 2 (.ofPieces (Text.decodePieces bytes.toList)) with
    | error fault => simp [hload, Except.mapError] at h
    | ok v =>
        simp only [hload, Except.mapError, Except.ok.injEq] at h
        exact h ▸ Yaml.loadStream_sectionsApart hload

end CodeCensus
