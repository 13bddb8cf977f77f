import CodeCensus.Template.Builtin
import CodeCensus.Template.Render
import Mathlib.Data.List.Basic

/-!
# What a template shows

A template reads the variables of its scope, and most of what it reads goes through dotted names. What it can show
is settled before it is rendered, by going over its tree. If two scopes agree on the dotted names that the tree
reads, the tree has the same text in both, whatever else is in them. The branches that are not taken need not be
looked at, where the truth of a test is known. In the same way a tree is rendered without a fault if everything
it needs is known to be there.

A view lists what is known: variables that may stand for different things, dotted names that stand for alike ones
all the same, and facts about single dotted names. Checking a tree against a view is a matter of going over the
tree once, and the checks are sound for every two scopes that fit the view.

## Contents
- `Expr.path?`, `Scope.thing` — dotted names and variables;
- `Thing.Alike`, `OutcomesAlike` — what a template cannot tell apart;
- `View` with `View.Agrees` and `View.Fits` — what is known of scopes, kept by every loop;
- `Expr.clear`, `piecesClear` and `renderPieces_clear` — a tree that reads what is shared only has one text;
- `piecesStop` and `renderPieces_stops` — a tree that has to present what is not there has no text;
- `piecesBacked` and `renderPieces_backed` — a tree that needs nothing else has a text.
-/

namespace CodeCensus
namespace Template

/-! ## Dotted names -/

/-- The variable that an expression names and the fields after it, if it reads fields only. -/
def Expr.path? : Expr → Option (List String)
  | .named name => some [name]
  | .field of name => of.path?.map fun path => path ++ [name]
  | _ => none

theorem dotted_concat {path : List String} (hne : path ≠ []) (name : String) :
    dotted (path ++ [name]) = .field (dotted path) name := by
  cases path with
  | nil => exact absurd rfl hne
  | cons head fields => exact List.foldl_concat Expr.field (.named head) name fields

theorem Expr.path?_ne_nil {e : Expr} {path : List String} (h : e.path? = some path) : path ≠ [] := by
  cases e with
  | named name =>
      obtain rfl := Option.some.inj h
      exact List.cons_ne_nil name []
  | field of name =>
      obtain ⟨front, _, rfl⟩ := Option.map_eq_some_iff.mp h
      simp
  | constant | item | filtered => simp [Expr.path?] at h

/-- An expression that reads fields only is its dotted name. -/
theorem Expr.dotted_path? {e : Expr} {path : List String} (h : e.path? = some path) : dotted path = e := by
  induction e generalizing path with
  | named name =>
      obtain rfl := Option.some.inj h
      rfl
  | field of name ih =>
      obtain ⟨front, hfront, rfl⟩ := Option.map_eq_some_iff.mp h
      rw [dotted_concat (Expr.path?_ne_nil hfront), ih hfront]
  | constant | item | filtered => simp [Expr.path?] at h

/-- What a variable stands for. -/
def Scope.thing (s : Scope) (name : String) : Thing :=
  ((s.find? fun e => e.1 = name).map (·.2)).getD (.unset name)

theorem Scope.thing_append {inner : Scope} {name : String} (hname : name ∉ inner.map (·.1)) (s : Scope) :
    Scope.thing (inner ++ s) name = Scope.thing s name := by
  have hnone : inner.find? (fun e => e.1 = name) = none := by
    rw [List.find?_eq_none]
    intro e he heq
    exact hname (List.mem_map.mpr ⟨e, he, of_decide_eq_true heq⟩)
  unfold Scope.thing
  rw [List.find?_append, hnone, Option.none_or]

theorem eval_foldl_field {s t : Scope} {e : Expr} (h : e.eval s = e.eval t) (fields : List String) :
    (fields.foldl Expr.field e).eval s = (fields.foldl Expr.field e).eval t := by
  induction fields generalizing e with
  | nil => exact h
  | cons name fields ih =>
      apply ih
      rw [Expr.eval, Expr.eval, h]

/-- A dotted name depends on what its variable stands for. -/
theorem eval_dotted_congr {s t : Scope} {path : List String}
    (h : ∀ name, path.head? = some name → Scope.thing s name = Scope.thing t name) :
    (dotted path).eval s = (dotted path).eval t := by
  cases path with
  | nil => rfl
  | cons name fields =>
      apply eval_foldl_field
      exact congrArg Except.ok (h name rfl)

/-! ## What cannot be told apart -/

/-- The same thing, or two things that are not there. -/
def Thing.Alike (x y : Thing) : Prop := x = y ∨ x.isAbsent = true ∧ y.isAbsent = true

/-- Alike things, or two faults. -/
def OutcomesAlike (a b : Except RenderFault Thing) : Prop :=
  (∃ x y, a = .ok x ∧ b = .ok y ∧ x.Alike y) ∨ ∃ e f, a = .error e ∧ b = .error f

theorem OutcomesAlike.of_toOption {a b : Except RenderFault Thing} (h : a.toOption = b.toOption) :
    OutcomesAlike a b := by
  cases a with
  | error e =>
      cases b with
      | error f => exact .inr ⟨e, f, rfl, rfl⟩
      | ok y => cases h
  | ok x =>
      cases b with
      | error f => cases h
      | ok y => exact .inl ⟨x, y, rfl, rfl, .inl (Option.some.inj h)⟩

section Absent

variable {x : Thing}

theorem cases_of_isAbsent (h : x.isAbsent = true) :
    (∃ name, x = .unset name) ∨ ∃ holder name, x = .absent holder name := by
  cases x with
  | unset name => exact .inl ⟨name, rfl⟩
  | absent holder name => exact .inr ⟨holder, name, rfl⟩
  | _ => cases h

theorem shown_of_isAbsent (h : x.isAbsent = true) : x.shown = "" := by
  rcases cases_of_isAbsent h with ⟨name, rfl⟩ | ⟨holder, name, rfl⟩ <;> rfl

theorem holds_of_isAbsent (h : x.isAbsent = true) : holds x = false := by
  rcases cases_of_isAbsent h with ⟨name, rfl⟩ | ⟨holder, name, rfl⟩ <;> rfl

theorem loopItems_of_isAbsent (h : x.isAbsent = true) : loopItems x = .ok [] := by
  rcases cases_of_isAbsent h with ⟨name, rfl⟩ | ⟨holder, name, rfl⟩ <;> rfl

theorem wholeNumber_of_isAbsent (h : x.isAbsent = true) : ∃ fault, wholeNumber x = .error fault := by
  rcases cases_of_isAbsent h with ⟨name, rfl⟩ | ⟨holder, name, rfl⟩ <;> exact ⟨_, rfl⟩

theorem present_of_isAbsent (h : x.isAbsent = true) : ∃ fault, present x = .error fault :=
  ⟨_, if_pos h⟩

/-- What is not there has no fields, but for members that everything has. -/
theorem fieldOf_of_isAbsent (h : x.isAbsent = true) {name : String} (hname : Kind.absent.member? name = none) :
    ∃ fault, fieldOf x name = .error fault := by
  have hattribute : x.attribute? name = none := by
    rcases cases_of_isAbsent h with ⟨own, rfl⟩ | ⟨holder, own, rfl⟩ <;>
      simp [Thing.attribute?, Thing.plainAttribute?, Thing.kindOf, hname]
  obtain ⟨fault, hfault⟩ := present_of_isAbsent h
  refine ⟨fault, ?_⟩
  simp [fieldOf, hattribute, hfault, bind, Except.bind]

end Absent

/-! What is not there shows as nothing, counts as false and has no items, whatever is missing. -/

namespace Thing.Alike

variable {x y : Thing}

theorem shown_eq (h : x.Alike y) : x.shown = y.shown := by
  rcases h with rfl | ⟨hx, hy⟩
  · rfl
  · rw [shown_of_isAbsent hx, shown_of_isAbsent hy]

theorem holds_eq (h : x.Alike y) : holds x = holds y := by
  rcases h with rfl | ⟨hx, hy⟩
  · rfl
  · rw [holds_of_isAbsent hx, holds_of_isAbsent hy]

theorem loopItems_eq (h : x.Alike y) : loopItems x = loopItems y := by
  rcases h with rfl | ⟨hx, hy⟩
  · rfl
  · rw [loopItems_of_isAbsent hx, loopItems_of_isAbsent hy]

theorem outcomesAlike_fieldOf (h : x.Alike y) {name : String} (hname : Kind.absent.member? name = none) :
    OutcomesAlike (fieldOf x name) (fieldOf y name) := by
  rcases h with rfl | ⟨hx, hy⟩
  · exact .of_toOption rfl
  · obtain ⟨e, he⟩ := fieldOf_of_isAbsent hx hname
    obtain ⟨f, hf⟩ := fieldOf_of_isAbsent hy hname
    exact .inr ⟨e, f, he, hf⟩

theorem toOption_present (h : x.Alike y) : (present x).toOption = (present y).toOption := by
  rcases h with rfl | ⟨hx, hy⟩
  · rfl
  · obtain ⟨e, he⟩ := present_of_isAbsent hx
    obtain ⟨f, hf⟩ := present_of_isAbsent hy
    rw [he, hf]
    rfl

end Thing.Alike

/-! ## Outcomes one after another -/

theorem ok_bind {α β : Type} (x : α) (f : α → Except RenderFault β) : Except.ok x >>= f = f x := rfl

theorem toOption_bind {α β : Type} (a : Except RenderFault α) (f : α → Except RenderFault β) :
    (a >>= f).toOption = a.toOption.bind fun x => (f x).toOption := by
  cases a <;> rfl

/-- What is done with things that are present comes out the same for alike ones. -/
theorem OutcomesAlike.present_bind {a b : Except RenderFault Thing} (h : OutcomesAlike a b) {β : Type}
    (f : Thing → Except RenderFault β) :
    (a >>= fun x => present x >>= f).toOption = (b >>= fun x => present x >>= f).toOption := by
  rcases h with ⟨x, y, rfl, rfl, halike⟩ | ⟨fault, fault', rfl, rfl⟩
  · rw [ok_bind, ok_bind, toOption_bind, toOption_bind, halike.toOption_present]
  · rfl

theorem toOption_mapM_congr {α β : Type} {f g : α → Except RenderFault β}
    (h : ∀ x, (f x).toOption = (g x).toOption) (xs : List α) : (xs.mapM f).toOption = (xs.mapM g).toOption := by
  induction xs with
  | nil => rfl
  | cons x xs ih =>
      rw [List.mapM_cons, List.mapM_cons, toOption_bind, toOption_bind, h x]
      simp only [toOption_bind, ih]

theorem exists_mapM_eq_ok {α β : Type} {f : α → Except RenderFault β} (h : ∀ x, ∃ y, f x = .ok y)
    (xs : List α) : ∃ ys, xs.mapM f = .ok ys := by
  induction xs with
  | nil => exact ⟨[], rfl⟩
  | cons x xs ih =>
      obtain ⟨y, hy⟩ := h x
      obtain ⟨ys, hys⟩ := ih
      exact ⟨y :: ys, by rw [List.mapM_cons, hy, hys]; rfl⟩

/-! ## Views -/

/-- What may be known of a dotted name. -/
inductive Fact where
  /-- It counts as true, or as false. -/
  | truth (value : Bool)
  /-- There is nothing of that name. -/
  | missing
  /-- It can be looked up. -/
  | there
  /-- It is a whole number, or can be made one. -/
  | whole
  /-- It has items. -/
  | listing
  deriving DecidableEq, Repr

/-- The fact holds of what looking a name up has led to. -/
def Fact.HoldsOf : Fact → Except RenderFault Thing → Prop
  | truth value, a => ∃ x, a = .ok x ∧ holds x = value
  | missing, a => ∀ x, a = .ok x → x.isAbsent = true
  | there, a => ∃ x, a = .ok x
  | whole, a => ∃ x n, a = .ok x ∧ wholeNumber x = .ok n
  | listing, a => ∃ x items, a = .ok x ∧ loopItems x = .ok items

/-- What is known of the scopes in which a template is read. -/
structure View where
  /-- Variables that may stand for different things. -/
  hidden : List String
  /-- Dotted names that stand for alike things all the same. -/
  shared : List (List String)
  /-- Facts about dotted names. -/
  facts : List (List String × Fact)

namespace View

/-- Every fact holds in the scope. -/
def Fits (v : View) (s : Scope) : Prop :=
  ∀ path fact, (path, fact) ∈ v.facts → fact.HoldsOf ((dotted path).eval s)

/-- The scopes differ in hidden variables only, and not in what is shared. -/
structure Agrees (v : View) (s t : Scope) : Prop where
  same : ∀ name, name ∉ v.hidden → Scope.thing s name = Scope.thing t name
  shared : ∀ path ∈ v.shared, OutcomesAlike ((dotted path).eval s) ((dotted path).eval t)

/-- The expression is a dotted name that is shared. -/
def shares (v : View) (e : Expr) : Bool := e.path?.any fun path => decide (path ∈ v.shared)

/-- The expression is a dotted name with a known fact. -/
def tells (v : View) (e : Expr) (fact : Fact) : Bool := e.path?.any fun path => decide ((path, fact) ∈ v.facts)

/-- The truth of an expression, where it is known. -/
def truth? (v : View) (e : Expr) : Option Bool :=
  if v.tells e (.truth true) then some true
  else if v.tells e (.truth false) then some false
  else none

/-- The names are not those of variables that the view is about. -/
def leaves (v : View) (names : List String) : Bool :=
  (v.shared ++ v.facts.map (·.1)).all fun path => names.all fun name => decide (path.head? ≠ some name)

variable {v : View} {s t : Scope} {e : Expr}

theorem Agrees.of_shares (h : v.Agrees s t) (he : v.shares e = true) : OutcomesAlike (e.eval s) (e.eval t) := by
  obtain ⟨path, hpath, hmem⟩ := (Option.any_eq_true ..).mp he
  rw [← Expr.dotted_path? hpath]
  exact h.shared path (of_decide_eq_true hmem)

theorem Fits.of_tells (h : v.Fits s) {fact : Fact} (he : v.tells e fact = true) : fact.HoldsOf (e.eval s) := by
  obtain ⟨path, hpath, hmem⟩ := (Option.any_eq_true ..).mp he
  rw [← Expr.dotted_path? hpath]
  exact h path fact (of_decide_eq_true hmem)

theorem Fits.of_truth? (h : v.Fits s) {value : Bool} (he : v.truth? e = some value) :
    ∃ x, e.eval s = .ok x ∧ holds x = value := by
  unfold truth? at he
  split at he
  next htrue =>
    obtain rfl := Option.some.inj he
    exact h.of_tells htrue
  next =>
    split at he
    next hfalse =>
      obtain rfl := Option.some.inj he
      exact h.of_tells hfalse
    next => cases he

/-- Where the truth of a test is known, one of the branches is rendered. -/
theorem Fits.renderPiece_branch (h : v.Fits s) {value : Bool} (he : v.truth? e = some value) (negated : Bool)
    (yes no : List Piece) :
    renderPiece s (.branch negated e yes no) =
      if value != negated then renderPieces s yes else renderPieces s no := by
  obtain ⟨x, hx, rfl⟩ := h.of_truth? he
  rw [renderPiece, hx, ok_bind]

/-! ### Loops -/

/-- The variables of a loop hide none that the view is about. -/
theorem eval_dotted_of_leaves {names : List String} (hnames : v.leaves names = true) {inner : Scope}
    (hinner : ∀ e ∈ inner, e.1 ∈ names) {path : List String}
    (hpath : path ∈ v.shared ++ v.facts.map (·.1)) :
    (dotted path).eval (inner ++ s) = (dotted path).eval s := by
  apply eval_dotted_congr
  intro name hname
  apply Scope.thing_append
  intro hmem
  obtain ⟨e, he, rfl⟩ := List.mem_map.mp hmem
  have hfree := List.all_eq_true.mp (List.all_eq_true.mp hnames path hpath) e.1 (hinner e he)
  exact of_decide_eq_true hfree hname

theorem Fits.inner (h : v.Fits s) {names : List String} (hnames : v.leaves names = true) {inner : Scope}
    (hinner : ∀ e ∈ inner, e.1 ∈ names) : v.Fits (inner ++ s) := by
  intro path fact hfact
  have hpath : path ∈ v.shared ++ v.facts.map (·.1) :=
    List.mem_append_right _ (List.mem_map.mpr ⟨(path, fact), hfact, rfl⟩)
  rw [eval_dotted_of_leaves hnames hinner hpath]
  exact h path fact hfact

theorem Agrees.inner (h : v.Agrees s t) {names : List String} (hnames : v.leaves names = true) {inner : Scope}
    (hinner : ∀ e ∈ inner, e.1 ∈ names) : v.Agrees (inner ++ s) (inner ++ t) where
  same name hname := by
    have hst := h.same name hname
    unfold Scope.thing at hst ⊢
    rw [List.find?_append, List.find?_append]
    cases inner.find? fun e => e.1 = name with
    | none => exact hst
    | some e => rfl
  shared path hpath := by
    have hmem : path ∈ v.shared ++ v.facts.map (·.1) := List.mem_append_left _ hpath
    rw [eval_dotted_of_leaves hnames hinner hmem, eval_dotted_of_leaves hnames hinner hmem]
    exact h.shared path hpath

end View

/-- A pass of a loop sets the variables of the loop, and the one that counts its passes. -/
theorem bindItem_names {names : List String} {number : Nat} {value : Value} {inner : Scope}
    (h : bindItem names number value = .ok inner) : ∀ e ∈ inner, e.1 ∈ "loop" :: names := by
  unfold bindItem at h
  dsimp only at h
  split at h
  next => cases h; simp
  next => cases h; simp
  next => cases h; simp
  next => cases h

/-! ## Trees that show what is shared only -/

/-- The expression reads nothing that differs. -/
def Expr.clear (v : View) : Expr → Bool
  | .named name => v.shares (.named name) || decide (name ∉ v.hidden)
  | .constant _ => true
  -- what is not there still has members, and one of them is the thing that lacks it
  | .field of name => v.shares (.field of name) || (of.clear v && (Kind.absent.member? name).isNone)
  | .item of _ => of.clear v
  | .filtered of _ => of.clear v

mutual

/-- The piece reads nothing that differs, as far as it is rendered. -/
def Piece.clear (v : View) : Piece → Bool
  | .text _ => true
  | .shown e => e.clear v
  | .branch negated test yes no =>
    match v.truth? test with
    | some value => if value != negated then piecesClear v yes else piecesClear v no
    | none => test.clear v && piecesClear v yes && piecesClear v no
  | .loop names range body => range.clear v && v.leaves ("loop" :: names) && piecesClear v body

/-- The pieces read nothing that differs. -/
def piecesClear (v : View) : List Piece → Bool
  | [] => true
  | p :: rest => p.clear v && piecesClear v rest

end

section Clear

variable {v : View} {s t : Scope}

theorem Expr.eval_clear (h : v.Agrees s t) {e : Expr} (he : e.clear v = true) :
    OutcomesAlike (e.eval s) (e.eval t) := by
  induction e with
  | named name =>
      rcases Bool.or_eq_true_iff.mp he with hshared | hvisible
      · exact h.of_shares hshared
      · have hsame := h.same name (of_decide_eq_true hvisible)
        exact .of_toOption (congrArg some hsame)
  | constant value => exact .of_toOption rfl
  | field of name ih =>
      rcases Bool.or_eq_true_iff.mp he with hshared | hfield
      · exact h.of_shares hshared
      · obtain ⟨hof, hname⟩ := Bool.and_eq_true_iff.mp hfield
        rw [Expr.eval, Expr.eval]
        rcases ih hof with ⟨x, y, hx, hy, halike⟩ | ⟨fault, fault', hx, hy⟩
        · rw [hx, hy]
          exact halike.outcomesAlike_fieldOf (Option.isNone_iff_eq_none.mp hname)
        · rw [hx, hy]
          exact .inr ⟨fault, fault', rfl, rfl⟩
  | item of index ih =>
      rw [Expr.eval, Expr.eval]
      exact .of_toOption ((ih he).present_bind _)
  | filtered of filter ih =>
      rw [Expr.eval, Expr.eval]
      exact .of_toOption ((ih he).present_bind _)

-- The induction is on the tree. The scopes are not fixed in it, as every pass of a loop reads the body in larger ones.
mutual

theorem renderPiece_clear : ∀ (p : Piece) {s t : Scope}, v.Agrees s t → v.Fits s → v.Fits t →
    p.clear v = true → (renderPiece s p).toOption = (renderPiece t p).toOption
  | .text _, _, _, _, _, _, _ => by rw [renderPiece, renderPiece]
  | .shown e, s, t, h, _, _, hp => by
      rw [renderPiece, renderPiece]
      rcases Expr.eval_clear h hp with ⟨x, y, hx, hy, halike⟩ | ⟨fault, fault', hx, hy⟩
      · rw [hx, hy]
        exact congrArg some halike.shown_eq
      · rw [hx, hy]
        rfl
  | .branch negated test yes no, s, t, h, hs, ht, hp => by
      rw [Piece.clear] at hp
      cases htruth : v.truth? test with
      | some value =>
          rw [hs.renderPiece_branch htruth, ht.renderPiece_branch htruth]
          simp only [htruth] at hp
          split at hp
          next hyes => rw [if_pos hyes, if_pos hyes]; exact renderPieces_clear yes h hs ht hp
          next hno => rw [if_neg hno, if_neg hno]; exact renderPieces_clear no h hs ht hp
      | none =>
          simp only [htruth, Bool.and_eq_true] at hp
          obtain ⟨⟨htest, hyes⟩, hno⟩ := hp
          rw [renderPiece, renderPiece]
          rcases Expr.eval_clear h htest with ⟨x, y, hx, hy, halike⟩ | ⟨fault, fault', hx, hy⟩
          · rw [hx, hy, ok_bind, ok_bind, halike.holds_eq]
            split
            next => exact renderPieces_clear yes h hs ht hyes
            next => exact renderPieces_clear no h hs ht hno
          · rw [hx, hy]
            rfl
  | .loop names range body, s, t, h, hs, ht, hp => by
      rw [Piece.clear, Bool.and_eq_true, Bool.and_eq_true] at hp
      obtain ⟨⟨hrange, hnames⟩, hbody⟩ := hp
      rw [renderPiece, renderPiece]
      rcases Expr.eval_clear h hrange with ⟨x, y, hx, hy, halike⟩ | ⟨fault, fault', hx, hy⟩
      · -- both loops go over the same items, and their passes set the same variables
        have hpass : ∀ pair : Value × Nat,
            (bindItem names (pair.2 + 1) pair.1 >>= fun inner => renderPieces (inner ++ s) body).toOption =
              (bindItem names (pair.2 + 1) pair.1 >>= fun inner => renderPieces (inner ++ t) body).toOption := by
          intro pair
          cases hbind : bindItem names (pair.2 + 1) pair.1 with
          | error fault => rfl
          | ok inner =>
              have hinner := bindItem_names hbind
              exact renderPieces_clear body (h.inner hnames hinner) (hs.inner hnames hinner)
                (ht.inner hnames hinner) hbody
        rw [hx, hy, ok_bind, ok_bind, halike.loopItems_eq]
        cases loopItems y with
        | error fault => rfl
        | ok items =>
            rw [ok_bind, ok_bind, toOption_bind, toOption_bind, toOption_mapM_congr hpass]
      · rw [hx, hy]
        rfl

/-- **A tree that reads nothing that differs has one text.** -/
theorem renderPieces_clear : ∀ (ps : List Piece) {s t : Scope}, v.Agrees s t → v.Fits s → v.Fits t →
    piecesClear v ps = true → (renderPieces s ps).toOption = (renderPieces t ps).toOption
  | [], _, _, _, _, _, _ => by rw [renderPieces, renderPieces]
  | p :: rest, s, t, h, hs, ht, hp => by
      rw [piecesClear, Bool.and_eq_true] at hp
      rw [renderPieces, renderPieces, toOption_bind, toOption_bind, renderPiece_clear p h hs ht hp.1]
      simp only [toOption_bind, renderPieces_clear rest h hs ht hp.2]

end

end Clear

/-! ## Trees that cannot be rendered -/

mutual

/-- The piece presents something that is not there. -/
def Piece.stops (v : View) : Piece → Bool
  | .shown (.filtered of _) => v.tells of .missing
  | .branch negated test yes no =>
    match v.truth? test with
    | some value => if value != negated then piecesStop v yes else piecesStop v no
    | none => false
  | _ => false

/-- One of the pieces does. -/
def piecesStop (v : View) : List Piece → Bool
  | [] => false
  | p :: rest => p.stops v || piecesStop v rest

end

section Stops

variable {v : View} {s : Scope}

mutual

theorem renderPiece_stops (hs : v.Fits s) : ∀ p : Piece, p.stops v = true → (renderPiece s p).toOption = none
  | .shown e, hp => by
      cases e with
      | filtered of filter =>
          have hmissing := hs.of_tells hp
          rw [renderPiece, Expr.eval]
          cases hof : of.eval s with
          | error fault => rfl
          | ok x =>
              obtain ⟨fault, hfault⟩ := present_of_isAbsent (hmissing x hof)
              rw [ok_bind, hfault]
              rfl
      | named | constant | field | item => simp [Piece.stops] at hp
  | .branch negated test yes no, hp => by
      rw [Piece.stops] at hp
      cases htruth : v.truth? test with
      | none => simp [htruth] at hp
      | some value =>
          rw [hs.renderPiece_branch htruth]
          simp only [htruth] at hp
          split at hp
          next hyes => rw [if_pos hyes]; exact renderPieces_stops hs yes hp
          next hno => rw [if_neg hno]; exact renderPieces_stops hs no hp
  | .text _, hp => by simp [Piece.stops] at hp
  | .loop _ _ _, hp => by simp [Piece.stops] at hp

/-- **A tree that presents what is not there has no text.** -/
theorem renderPieces_stops (hs : v.Fits s) :
    ∀ ps : List Piece, piecesStop v ps = true → (renderPieces s ps).toOption = none
  | [], hp => by simp [piecesStop] at hp
  | p :: rest, hp => by
      rw [piecesStop, Bool.or_eq_true] at hp
      rw [renderPieces, toOption_bind]
      rcases hp with hfirst | hrest
      · rw [renderPiece_stops hs p hfirst]
        rfl
      · simp only [toOption_bind, renderPieces_stops hs rest hrest]
        cases (renderPiece s p).toOption <;> rfl

end

end Stops

/-! ## Trees that are rendered -/

/-- What the expression needs is there. -/
def Expr.backed (v : View) : Expr → Bool
  | .named _ => true
  | .filtered of .grouped => v.tells of .whole
  | e => v.tells e .there

mutual

/-- What the piece needs is there, as far as it is rendered. -/
def Piece.backed (v : View) : Piece → Bool
  | .text _ => true
  | .shown e => e.backed v
  | .branch negated test yes no =>
    match v.truth? test with
    | some value => if value != negated then piecesBacked v yes else piecesBacked v no
    | none => test.backed v && piecesBacked v yes && piecesBacked v no
  | .loop [name] range body => v.tells range .listing && v.leaves ["loop", name] && piecesBacked v body
  | .loop _ _ _ => false

/-- What the pieces need is there. -/
def piecesBacked (v : View) : List Piece → Bool
  | [] => true
  | p :: rest => p.backed v && piecesBacked v rest

end

section Backed

variable {v : View}

theorem Expr.eval_backed {s : Scope} (hs : v.Fits s) {e : Expr} (he : e.backed v = true) :
    ∃ x, e.eval s = .ok x := by
  unfold Expr.backed at he
  split at he
  next name => exact ⟨_, rfl⟩
  next of =>
    obtain ⟨x, n, hx, hn⟩ := hs.of_tells he
    have hpresent : present x = .ok x := by
      refine if_neg fun habsent => ?_
      obtain ⟨fault, hfault⟩ := wholeNumber_of_isAbsent habsent
      cases hfault.symm.trans hn
    refine ⟨.value (.text (groupedText n)), ?_⟩
    simp [Expr.eval, hx, hpresent, Filter.apply, hn, bind, Except.bind, pure, Except.pure]
  next => exact hs.of_tells he

mutual

theorem renderPiece_backed : ∀ (p : Piece) {s : Scope}, v.Fits s → p.backed v = true →
    ∃ text, renderPiece s p = .ok text
  | .text content, _, _, _ => ⟨content, by rw [renderPiece]⟩
  | .shown e, s, hs, hp => by
      obtain ⟨x, hx⟩ := Expr.eval_backed hs hp
      exact ⟨x.shown, by rw [renderPiece, hx]; rfl⟩
  | .branch negated test yes no, s, hs, hp => by
      rw [Piece.backed] at hp
      cases htruth : v.truth? test with
      | some value =>
          rw [hs.renderPiece_branch htruth]
          simp only [htruth] at hp
          split at hp
          next hyes => rw [if_pos hyes]; exact renderPieces_backed yes hs hp
          next hno => rw [if_neg hno]; exact renderPieces_backed no hs hp
      | none =>
          simp only [htruth, Bool.and_eq_true] at hp
          obtain ⟨⟨htest, hyes⟩, hno⟩ := hp
          obtain ⟨x, hx⟩ := Expr.eval_backed hs htest
          rw [renderPiece, hx, ok_bind]
          split
          next => exact renderPieces_backed yes hs hyes
          next => exact renderPieces_backed no hs hno
  | .loop [name] range body, s, hs, hp => by
      rw [Piece.backed, Bool.and_eq_true, Bool.and_eq_true] at hp
      obtain ⟨⟨hrange, hnames⟩, hbody⟩ := hp
      obtain ⟨x, items, hx, hitems⟩ := hs.of_tells hrange
      have hpass : ∀ pair : Value × Nat, ∃ text,
          (bindItem [name] (pair.2 + 1) pair.1 >>= fun inner => renderPieces (inner ++ s) body) = .ok text := by
        intro pair
        have hbind : bindItem [name] (pair.2 + 1) pair.1 = .ok _ := rfl
        have hinner := bindItem_names hbind
        exact renderPieces_backed body (hs.inner hnames hinner) hbody
      obtain ⟨texts, htexts⟩ := exists_mapM_eq_ok hpass items.zipIdx
      refine ⟨String.join texts, ?_⟩
      rw [renderPiece, hx, ok_bind, hitems, ok_bind, htexts]
      rfl
  | .loop [] _ _, _, _, hp => by simp [Piece.backed] at hp
  | .loop (_ :: _ :: _) _ _, _, _, hp => by simp [Piece.backed] at hp

/-- **A tree that needs nothing but what is there has a text.** -/
theorem renderPieces_backed : ∀ (ps : List Piece) {s : Scope}, v.Fits s → piecesBacked v ps = true →
    ∃ text, renderPieces s ps = .ok text
  | [], _, _, _ => ⟨"", by rw [renderPieces]⟩
  | p :: rest, s, hs, hp => by
      rw [piecesBacked, Bool.and_eq_true] at hp
      obtain ⟨first, hfirst⟩ := renderPiece_backed p hs hp.1
      obtain ⟨others, hothers⟩ := renderPieces_backed rest hs hp.2
      exact ⟨first ++ others, by rw [renderPieces, hfirst, hothers]; rfl⟩

end

end Backed

end Template
end CodeCensus
