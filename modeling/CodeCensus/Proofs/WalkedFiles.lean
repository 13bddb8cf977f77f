import CodeCensus.Proofs.TreePlaces
import CodeCensus.Run.Duplicates
import Mathlib.Data.String.Basic

/-!
# The files of a walk

A walk goes down a tree and leaves directories out on the way. What it finds can be said without going
down: a path is found if its names lead from the root to an entry through real directories with names that
are entered, and the entry is a file that is taken in. Links are never gone through, so a tree with links in
circles is walked like any other. The order is that of the names, files before subdirectories.

## Contents
- `Reaches` — names that lead to an entry through real directories;
- `TakenIn` — the file at a path is one that the walk takes in;
- `WalksBefore` — which of two files comes first;
- `mem_walkNode`, `walkNode_pairwise` — what is found below a node, and in which order;
- `WalksExactly`, `walk_finds_exactly` — the walk of a directory.
-/

namespace CodeCensus

/-! ## What a walk is to find -/

/-- Names lead from a node to an entry below it, through real directories with names that may be entered. -/
inductive Reaches (enters : String → Prop) : Node → List String → Node → Prop
  | entry {entries : List (String × Node)} {name : String} {n : Node} (mem : (name, n) ∈ entries) :
      Reaches enters (.directory entries) [name] n
  | down {entries : List (String × Node)} {name : String} {sub n : Node} {names : List String}
      (mem : (name, sub) ∈ entries) (enter : enters name) (rest : Reaches enters sub names n) :
      Reaches enters (.directory entries) (name :: names) n

namespace Reaches

variable {enters : String → Prop} {n m : Node} {names : List String}

theorem exists_entries (h : Reaches enters n names m) : ∃ entries, n = .directory entries := by
  cases h <;> exact ⟨_, rfl⟩

theorem isDirectory (h : Reaches enters n names m) : n.isDirectory = true := by
  cases h <;> rfl

theorem names_ne_nil (h : Reaches enters n names m) : names ≠ [] := by
  cases h <;> exact List.cons_ne_nil _ _

/-- In a tree, names that lead to an entry are plain. -/
theorem plain (h : Reaches enters n names m) (htree : n.IsTree) : ∀ name ∈ names, PlainName name := by
  induction h with
  | entry mem =>
      cases htree with
      | directory nodup plain below => exact List.forall_mem_singleton.mpr (plain _ mem)
  | down mem enter rest ih =>
      cases htree with
      | directory nodup plain below =>
          exact List.forall_mem_cons.mpr ⟨plain _ mem, ih (below _ mem)⟩

/-- Which names may be entered matters for all names but the last. -/
theorem iff_of_all : Reaches enters n names m ↔
    Reaches (fun _ => True) n names m ∧ ∀ name ∈ names.dropLast, enters name := by
  constructor
  · intro h
    induction h with
    | entry mem => exact ⟨.entry mem, fun name hname => absurd hname List.not_mem_nil⟩
    | down mem enter rest ih =>
        refine ⟨.down mem trivial ih.1, ?_⟩
        rw [List.dropLast_cons_of_ne_nil rest.names_ne_nil]
        exact List.forall_mem_cons.mpr ⟨enter, ih.2⟩
  · rintro ⟨h, henters⟩
    induction h with
    | entry mem => exact .entry mem
    | down mem _ rest ih =>
        rw [List.dropLast_cons_of_ne_nil rest.names_ne_nil, List.forall_mem_cons] at henters
        exact .down mem henters.1 (ih henters.2)

end Reaches

/-- The name of a directory that a walk enters: it is not listed and does not start with a dot. -/
def Entered (skips : List String) (name : String) : Prop :=
  name ∉ skips ∧ name.toList.head? ≠ some '.'

theorem skipsDirectory_eq_false {skips : List String} {name : String} :
    skipsDirectory skips name = false ↔ Entered skips name := by
  simp [skipsDirectory, Entered]

/-- The file at a path, with its node, is one that a walk takes in: neither a directory nor a link to one,
    accepted, and a regular file that is not too large. -/
structure TakenIn (fs : FileSystem) (options : WalkOptions) (path : Path) (n : Node) : Prop where
  not_directory : n.isDirectory = false
  not_linked : ∀ target, n = .link target → ∀ place m, fs.locate path = .ok (place, m) →
    m.isDirectory = false
  accepted : options.accepts path = true
  regular : ∃ info, fs.stat path = .ok info ∧ info.isRegular = true ∧
    ∀ limit, options.maxSize = some limit → (info.size : Int) ≤ limit

/-- By their names below a directory, one file comes before another: files by name, a file before all that
    lies in subdirectories, and what lies in subdirectories by the name of these and then within them. -/
inductive WalksBefore : List String → List String → Prop
  | files {f g : String} (lt : f < g) : WalksBefore [f] [g]
  | file_first {f d x : String} {xs : List String} : WalksBefore [f] (d :: x :: xs)
  | directories {d e x y : String} {xs ys : List String} (lt : d < e) :
      WalksBefore (d :: x :: xs) (e :: y :: ys)
  | within {d : String} {xs ys : List String} (rest : WalksBefore xs ys) :
      WalksBefore (d :: xs) (d :: ys)

namespace WalksBefore

variable {xs ys zs : List String}

theorem ne (h : WalksBefore xs ys) : xs ≠ ys := by
  induction h with
  | files lt =>
      intro heq
      rw [List.singleton_inj] at heq
      exact absurd lt (heq ▸ lt_irrefl _)
  | file_first => simp
  | directories lt =>
      intro heq
      rw [List.cons.injEq] at heq
      exact absurd lt (heq.1 ▸ lt_irrefl _)
  | within rest ih => simpa using ih

theorem right_ne_nil (h : WalksBefore xs ys) : ys ≠ [] := by
  cases h <;> exact List.cons_ne_nil _ _

/-- What comes between two files of a directory lies in that directory too. By induction on the names of the
    directory; two different first names would be before and after one another. -/
theorem between {dirs : List String} (hxy : WalksBefore (dirs ++ xs) ys)
    (hyz : WalksBefore ys (dirs ++ zs)) (hxs : xs ≠ []) (hzs : zs ≠ []) :
    ∃ rest, rest ≠ [] ∧ ys = dirs ++ rest := by
  induction dirs generalizing ys with
  | nil => exact ⟨ys, hxy.right_ne_nil, rfl⟩
  | cons d ds ih =>
      have hx : ds ++ xs ≠ [] := List.append_ne_nil_of_right_ne_nil ds hxs
      have hz : ds ++ zs ≠ [] := List.append_ne_nil_of_right_ne_nil ds hzs
      rw [List.cons_append] at hxy hyz
      generalize hleft : ds ++ xs = left at hxy
      generalize hright : ds ++ zs = right at hyz
      cases hxy with
      | files lt => exact absurd hleft hx
      | file_first => exact absurd hleft hx
      | directories lt =>
          cases hyz with
          | directories lt' => exact absurd lt' (lt_asymm lt)
          | within rest => exact absurd lt (lt_irrefl d)
      | within rest =>
          cases hyz with
          | files lt => exact absurd hright hz
          | file_first => exact absurd rfl rest.right_ne_nil
          | directories lt => exact absurd lt (lt_irrefl d)
          | within rest' =>
              subst hleft hright
              obtain ⟨tail, hne, rfl⟩ := ih rest rest'
              exact ⟨tail, hne, rfl⟩

end WalksBefore

/-! ## One directory -/

section Directory

variable {fs : FileSystem} {options : WalkOptions} {dir p : Path}

theorem mem_foundPaths {walked : List (Except FileError Path)} :
    p ∈ foundPaths walked ↔ .ok p ∈ walked := by
  unfold foundPaths
  rw [List.mem_filterMap]
  constructor
  · rintro ⟨found, hmem, hfound⟩
    cases found with
    | ok q => exact Option.some.inj hfound ▸ hmem
    | error e => cases hfound
  · intro hmem
    exact ⟨.ok p, hmem, rfl⟩

theorem foundPaths_append (xs ys : List (Except FileError Path)) :
    foundPaths (xs ++ ys) = foundPaths xs ++ foundPaths ys :=
  List.filterMap_append

theorem foundPaths_flatMap {α : Type} (f : α → List (Except FileError Path)) (xs : List α) :
    foundPaths (xs.flatMap f) = xs.flatMap fun x => foundPaths (f x) :=
  List.filterMap_flatMap

theorem mem_sortByName {α : Type} {items : List (String × α)} {x : String × α} :
    x ∈ sortByName items ↔ x ∈ items :=
  List.mem_mergeSort

/-- Things with different names are sorted strictly. -/
theorem sortByName_pairwise {α : Type} {items : List (String × α)}
    (hnames : (items.map Prod.fst).Nodup) : (sortByName items).Pairwise fun a b => a.1 < b.1 := by
  have hsorted : (sortByName items).Pairwise fun a b => decide (a.1 ≤ b.1) = true :=
    List.pairwise_mergeSort (fun a b c hab hbc => by simpa using le_trans (by simpa using hab) (by simpa using hbc))
      (fun a b => by simpa using le_total a.1 b.1) items
  have hdistinct : (sortByName items).Pairwise fun a b => a.1 ≠ b.1 := by
    have hperm := (List.mergeSort_perm items fun a b => decide (a.1 ≤ b.1)).map Prod.fst
    exact List.pairwise_map.mp (hperm.nodup_iff.mpr hnames)
  refine hsorted.imp₂ ?_ hdistinct
  intro a b hle hne
  exact lt_of_le_of_ne (by simpa using hle) hne

theorem leadsToDirectory_eq_false {n : Node} :
    fs.leadsToDirectory p n = false ↔ n.isDirectory = false ∧
      ∀ target, n = .link target → ∀ place m, fs.locate p = .ok (place, m) → m.isDirectory = false := by
  cases n with
  | directory entries => simp [FileSystem.leadsToDirectory, Node.isDirectory]
  | file content modified => simp [FileSystem.leadsToDirectory, Node.isDirectory]
  | pipe => simp [FileSystem.leadsToDirectory, Node.isDirectory]
  | closed => simp [FileSystem.leadsToDirectory, Node.isDirectory]
  | link target =>
      have hlink : (Node.link target).isDirectory = false := rfl
      unfold FileSystem.leadsToDirectory
      cases hlocate : fs.locate p with
      | error fault => simp [hlink]
      | ok found =>
          obtain ⟨place, m⟩ := found
          simp [hlink]

/-- A file is found if it is accepted and a regular file that is not too large. -/
theorem visitFile_eq_ok {path : Path} :
    fs.visitFile options path = some (.ok p) ↔ p = path ∧ options.accepts path = true ∧
      ∃ info, fs.stat path = .ok info ∧ info.isRegular = true ∧
        ∀ limit, options.maxSize = some limit → (info.size : Int) ≤ limit := by
  unfold FileSystem.visitFile
  cases haccepts : options.accepts path with
  | false => simp
  | true =>
      cases hstat : fs.stat path with
      | error e => simp
      | ok info =>
          cases hregular : info.isRegular with
          | false => simp [hregular]
          | true =>
              cases hsize : options.maxSize with
              | none => simp [hregular, @eq_comm _ path]
              | some limit =>
                  by_cases hlarge : limit < (info.size : Int)
                  · simp [hregular, hlarge]
                  · simp [hregular, hlarge, not_lt.mp hlarge, @eq_comm _ path]

theorem visitFile_of_locate {path : Path} {place : List String} {content : ByteArray} {modified : Int}
    (hlocate : fs.locate path = .ok (place, .file content modified)) (haccepts : options.accepts path = true)
    (hsize : ∀ limit, options.maxSize = some limit → (content.size : Int) ≤ limit) :
    fs.visitFile options path = some (.ok path) := by
  exact visitFile_eq_ok.mpr
    ⟨rfl, haccepts, ⟨true, content.size, modified⟩, FileSystem.stat_of_locate hlocate, rfl, hsize⟩

/-- The files that a directory itself holds are those of its entries that are taken in. -/
theorem mem_filesOf {entries : List (String × Node)} :
    p ∈ foundPaths (fs.filesOf options dir entries) ↔
      ∃ e ∈ entries, p = dir.child e.1 ∧ TakenIn fs options p e.2 := by
  unfold FileSystem.filesOf
  rw [mem_foundPaths, List.mem_filterMap]
  constructor
  · rintro ⟨e, he, hvisit⟩
    rw [mem_sortByName, List.mem_filter, Bool.not_eq_true', leadsToDirectory_eq_false] at he
    obtain ⟨rfl, haccepts, hregular⟩ := visitFile_eq_ok.mp hvisit
    exact ⟨e, he.1, rfl, he.2.1, he.2.2, haccepts, hregular⟩
  · rintro ⟨e, he, rfl, htaken⟩
    refine ⟨e, ?_, visitFile_eq_ok.mpr ⟨rfl, htaken.accepted, htaken.regular⟩⟩
    rw [mem_sortByName, List.mem_filter, Bool.not_eq_true', leadsToDirectory_eq_false]
    exact ⟨he, htaken.not_directory, htaken.not_linked⟩

/-- The subdirectories that are entered, each with its walk. -/
theorem walkEntries_eq (entries : List (String × Node)) :
    fs.walkEntries options dir entries =
      (entries.filter fun e => e.2.isDirectory && !skipsDirectory options.skips e.1).map
        fun e => (e.1, fs.walkNode options (dir.child e.1) e.2) := by
  induction entries with
  | nil => simp [FileSystem.walkEntries]
  | cons e rest ih =>
      obtain ⟨name, n⟩ := e
      rw [FileSystem.walkEntries, ih, FileSystem.walkEntry, List.filter_cons]
      split <;> rfl

theorem mem_walkEntries {entries : List (String × Node)} {x : String × List (Except FileError Path)} :
    x ∈ fs.walkEntries options dir entries ↔
      ∃ e ∈ entries, e.2.isDirectory = true ∧ Entered options.skips e.1 ∧
        x = (e.1, fs.walkNode options (dir.child e.1) e.2) := by
  rw [walkEntries_eq, List.mem_map]
  simp only [List.mem_filter, Bool.and_eq_true, Bool.not_eq_true', skipsDirectory_eq_false]
  constructor
  · rintro ⟨e, ⟨he, hdir, henter⟩, rfl⟩
    exact ⟨e, he, hdir, henter, rfl⟩
  · rintro ⟨e, he, hdir, henter, rfl⟩
    exact ⟨e, ⟨he, hdir, henter⟩, rfl⟩

/-- Below what is no directory, or one that may not be opened, there is nothing to find. -/
theorem foundPaths_walkNode_leaf {n : Node} (h : ∀ entries, n ≠ .directory entries) :
    foundPaths (fs.walkNode options dir n) = [] := by
  cases n with
  | directory entries => exact absurd rfl (h entries)
  | file content modified => simp [FileSystem.walkNode, foundPaths]
  | link target => simp [FileSystem.walkNode, foundPaths]
  | pipe => simp [FileSystem.walkNode, foundPaths]
  | closed => simp [FileSystem.walkNode, foundPaths]

/-- What a walk finds in a directory: its own files, then those of its subdirectories. -/
theorem foundPaths_walkNode (entries : List (String × Node)) :
    foundPaths (fs.walkNode options dir (.directory entries)) =
      foundPaths (fs.filesOf options dir entries) ++
        (sortByName (fs.walkEntries options dir entries)).flatMap fun x => foundPaths x.2 := by
  rw [FileSystem.walkNode, foundPaths_append, foundPaths_flatMap]

/-- A walk of a directory that holds only files, in the order of their names, finds them if all are taken in. -/
theorem walk?_of_files {place : List String} {entries : List (String × Node)}
    (hdir : fs.locate dir = .ok (place, .directory entries))
    (hfiles : ∀ e ∈ entries, ∃ content modified, e.2 = .file content modified)
    (hsorted : entries.Pairwise fun a b => a.1 ≤ b.1)
    (hvisit : ∀ e ∈ entries, fs.visitFile options (dir.child e.1) = some (.ok (dir.child e.1))) :
    fs.walk? options dir = some (entries.map fun e => .ok (dir.child e.1)) := by
  have hleaf : ∀ e ∈ entries, fs.leadsToDirectory (dir.child e.1) e.2 = false ∧ e.2.isDirectory = false := by
    intro e he
    obtain ⟨content, modified, hfile⟩ := hfiles e he
    rw [hfile]
    exact ⟨rfl, rfl⟩
  have hown : fs.filesOf options dir entries = entries.map fun e => .ok (dir.child e.1) := by
    have hkept : entries.filter (fun e => !fs.leadsToDirectory (dir.child e.1) e.2) = entries := by
      rw [List.filter_eq_self]
      intro e he
      rw [(hleaf e he).1]
      rfl
    unfold FileSystem.filesOf sortByName
    rw [hkept, List.mergeSort_of_pairwise (by simpa using hsorted), List.filterMap_congr hvisit,
      List.filterMap_eq_map']
  have hbelow : fs.walkEntries options dir entries = [] := by
    rw [walkEntries_eq, List.filter_eq_nil_iff.mpr, List.map_nil]
    intro e he
    simp [(hleaf e he).2]
  unfold FileSystem.walk?
  rw [hdir]
  show some (fs.walkNode options dir (.directory entries)) = _
  rw [FileSystem.walkNode, hown, hbelow]
  simp [sortByName]

end Directory

/-! ## All directories -/

section Below

variable {fs : FileSystem} {options : WalkOptions} {n : Node}

/-- **What is found below a node.** By induction on the tree: names of length one lead to the files of the
    directory, longer names into one of its subdirectories. -/
theorem mem_walkNode (htree : n.IsTree) {dir p : Path} :
    p ∈ foundPaths (fs.walkNode options dir n) ↔
      ∃ names m, p = dir.below names ∧ Reaches (Entered options.skips) n names m ∧
        TakenIn fs options p m := by
  have hleaf : ∀ leaf : Node, (∀ entries, leaf ≠ .directory entries) → ∀ dir,
      (p ∈ foundPaths (fs.walkNode options dir leaf) ↔
        ∃ names m, p = dir.below names ∧ Reaches (Entered options.skips) leaf names m ∧
          TakenIn fs options p m) := by
    intro leaf hleaf dir
    rw [foundPaths_walkNode_leaf hleaf]
    refine iff_of_false List.not_mem_nil ?_
    rintro ⟨names, m, _, hreach, _⟩
    obtain ⟨entries, rfl⟩ := hreach.exists_entries
    exact hleaf entries rfl
  induction htree generalizing dir with
  | file content modified => exact hleaf _ (by simp) dir
  | link target => exact hleaf _ (by simp) dir
  | pipe => exact hleaf _ (by simp) dir
  | closed => exact hleaf _ (by simp) dir
  | @directory entries nodup plain below ih =>
      rw [foundPaths_walkNode, List.mem_append, mem_filesOf, List.mem_flatMap]
      constructor
      · rintro (⟨e, he, hp, htaken⟩ | ⟨x, hx, hp⟩)
        · exact ⟨[e.1], e.2, hp, .entry he, htaken⟩
        · obtain ⟨e, he, _, henter, rfl⟩ := mem_walkEntries.mp (mem_sortByName.mp hx)
          obtain ⟨names, m, rfl, hreach, htaken⟩ := (ih e he).mp hp
          exact ⟨e.1 :: names, m, by simp, .down he henter hreach, by simpa using htaken⟩
      · rintro ⟨names, m, rfl, hreach, htaken⟩
        cases hreach with
        | entry mem => exact Or.inl ⟨_, mem, rfl, htaken⟩
        | @down _ name sub _ rest mem enter hrest =>
            refine Or.inr ⟨_, mem_sortByName.mpr (mem_walkEntries.mpr
              ⟨_, mem, hrest.isDirectory, enter, rfl⟩), ?_⟩
            exact (ih _ mem).mpr ⟨rest, m, by simp, hrest, htaken⟩

/-- One path comes before another by their names below a directory. -/
def ComesBefore (dir p q : Path) : Prop :=
  ∃ xs ys, p = dir.below xs ∧ q = dir.below ys ∧ WalksBefore xs ys

/-- **The order in which files are found.** By induction on the tree: files of the directory are sorted by
    name, its subdirectories too, and within one of these the order is known. -/
theorem walkNode_pairwise (htree : n.IsTree) (dir : Path) :
    (foundPaths (fs.walkNode options dir n)).Pairwise (ComesBefore dir) := by
  induction htree generalizing dir with
  | file content modified => rw [foundPaths_walkNode_leaf (by simp)]; exact List.Pairwise.nil
  | link target => rw [foundPaths_walkNode_leaf (by simp)]; exact List.Pairwise.nil
  | pipe => rw [foundPaths_walkNode_leaf (by simp)]; exact List.Pairwise.nil
  | closed => rw [foundPaths_walkNode_leaf (by simp)]; exact List.Pairwise.nil
  | @directory entries nodup plain below ih =>
      have hfiles : ((entries.filter fun e => !fs.leadsToDirectory (dir.child e.1) e.2).map
          Prod.fst).Nodup := nodup.sublist (List.filter_sublist.map Prod.fst)
      have hdirs : ((fs.walkEntries options dir entries).map Prod.fst).Nodup := by
        rw [walkEntries_eq, List.map_map]
        exact nodup.sublist (List.filter_sublist.map Prod.fst)
      -- what is found in a subdirectory has its name and at least one more
      have hdeep : ∀ x ∈ sortByName (fs.walkEntries options dir entries), ∀ p ∈ foundPaths x.2,
          ∃ y ys, p = dir.below (x.1 :: y :: ys) := by
        intro x hx p hp
        obtain ⟨e, he, _, _, rfl⟩ := mem_walkEntries.mp (mem_sortByName.mp hx)
        obtain ⟨names, m, rfl, hreach, _⟩ := (mem_walkNode (below e he)).mp hp
        obtain ⟨y, ys, rfl⟩ := List.exists_cons_of_ne_nil hreach.names_ne_nil
        exact ⟨y, ys, by simp⟩
      rw [foundPaths_walkNode, List.pairwise_append]
      refine ⟨?_, ?_, ?_⟩
      · unfold FileSystem.filesOf foundPaths
        rw [List.pairwise_filterMap, List.pairwise_filterMap]
        refine (sortByName_pairwise hfiles).imp ?_
        intro a b hlt x hx y hy p hp q hq
        cases x with
        | error e => cases hp
        | ok path =>
            cases y with
            | error e => cases hq
            | ok path' =>
                cases hp
                cases hq
                exact ⟨[a.1], [b.1], (visitFile_eq_ok.mp hx).1, (visitFile_eq_ok.mp hy).1,
                  .files hlt⟩
      · rw [List.pairwise_flatMap]
        constructor
        · intro x hx
          obtain ⟨e, he, _, _, rfl⟩ := mem_walkEntries.mp (mem_sortByName.mp hx)
          refine (ih e he (dir.child e.1)).imp ?_
          rintro p q ⟨xs, ys, rfl, rfl, hbefore⟩
          exact ⟨e.1 :: xs, e.1 :: ys, by simp, by simp, .within hbefore⟩
        · refine (sortByName_pairwise hdirs).imp_of_mem ?_
          intro a b ha hb hlt p hp q hq
          obtain ⟨x, xs, rfl⟩ := hdeep a ha p hp
          obtain ⟨y, ys, rfl⟩ := hdeep b hb q hq
          exact ⟨_, _, rfl, rfl, .directories hlt⟩
      · intro p hp q hq
        obtain ⟨e, _, rfl, _⟩ := mem_filesOf.mp hp
        obtain ⟨x, hx, hq⟩ := List.mem_flatMap.mp hq
        obtain ⟨y, ys, rfl⟩ := hdeep x hx q hq
        exact ⟨[e.1], x.1 :: y :: ys, rfl, rfl, .file_first⟩

end Below

/-! ## The walk of a directory -/

/-- In an ordered list, elements with a property that nothing between two of them lacks stand together. -/
theorem contiguous_of_between {α : Type} {before : α → α → Prop} {inside : α → Prop}
    (hbetween : ∀ x y z, before x y → before y z → inside x → inside z → inside y) {xs : List α}
    (hxs : xs.Pairwise before) :
    ∃ front middle back, xs = front ++ (middle ++ back) ∧ (∀ x ∈ middle, inside x) ∧
      ∀ x ∈ front ++ back, ¬ inside x := by
  induction xs with
  | nil => exact ⟨[], [], [], rfl, by simp, by simp⟩
  | cons x rest ih =>
      obtain ⟨hx, hrest⟩ := List.pairwise_cons.mp hxs
      obtain ⟨front, middle, back, rfl, hmiddle, hout⟩ := ih hrest
      by_cases hin : inside x
      · cases middle with
        | nil =>
            -- no other element is inside, so all of them come after the first
            refine ⟨[], [x], front ++ back, by simp, by simpa using hin, by simpa using hout⟩
        | cons z others =>
            have hfront : front = [] := by
              rw [List.eq_nil_iff_forall_not_mem]
              intro y hy
              have hyz : before y z := (List.pairwise_append.mp hrest).2.2 y hy z (by simp)
              have hxy : before x y := hx y (List.mem_append_left _ hy)
              have hz : inside z := hmiddle z List.mem_cons_self
              exact hout y (List.mem_append_left _ hy) (hbetween x y z hxy hyz hin hz)
            subst hfront
            exact ⟨[], x :: z :: others, back, rfl, List.forall_mem_cons.mpr ⟨hin, hmiddle⟩, hout⟩
      · exact ⟨x :: front, middle, back, rfl, hmiddle, List.forall_mem_cons.mpr ⟨hin, hout⟩⟩

/-- The path lies somewhere below the directory. -/
def LiesIn (dir p : Path) : Prop := ∃ names, names ≠ [] ∧ p = dir.below names

/-- A list of paths is what a walk of the directory at `root` with the given entries has to find: every path
    to a file that is taken in, reached through real directories that are entered, once and in order, the
    files of every directory next to each other. -/
structure WalksExactly (fs : FileSystem) (options : WalkOptions) (root : Path)
    (entries : List (String × Node)) (found : List Path) : Prop where
  nodup : found.Nodup
  mem_iff : ∀ p, p ∈ found ↔ ∃ names n, p = root.below names ∧
    Reaches (Entered options.skips) (.directory entries) names n ∧ TakenIn fs options p n
  ordered : found.Pairwise (ComesBefore root)
  contiguous : ∀ dirs, ∃ front middle back, found = front ++ (middle ++ back) ∧
    (∀ p ∈ middle, LiesIn (root.below dirs) p) ∧ ∀ p ∈ front ++ back, ¬ LiesIn (root.below dirs) p

/-- **A walk finds exactly the files it has to.** In every tree, whatever links and pipes there are and
    whatever the test, the skipped names and the size limit, the walk of a directory comes to an end and finds
    every file that it has to find once, in order, and nothing else. -/
theorem walk_finds_exactly (fs : FileSystem) (htree : fs.tree.IsTree) (options : WalkOptions)
    (root : Path) {place : List String} {entries : List (String × Node)}
    (hroot : fs.locate root = .ok (place, .directory entries)) :
    ∃ walked, fs.walk? options root = some walked ∧
      WalksExactly fs options root entries (foundPaths walked) := by
  have hdir : (Node.directory entries).IsTree := (FileSystem.isTree_of_locate htree hroot).2
  have hwalk : fs.walk? options root = some (fs.walkNode options root (.directory entries)) := by
    simp [FileSystem.walk?, hroot, Node.isDirectory]
  have hordered : (foundPaths (fs.walkNode options root (.directory entries))).Pairwise
      (ComesBefore root) := walkNode_pairwise hdir root
  refine ⟨_, hwalk, ?_, fun p => mem_walkNode hdir, hordered, ?_⟩
  · refine hordered.imp ?_
    rintro p q ⟨xs, ys, rfl, rfl, hbefore⟩ heq
    exact hbefore.ne (root.below_injective heq)
  · intro dirs
    refine contiguous_of_between ?_ hordered
    rintro x y z ⟨xs, ys, rfl, rfl, hxy⟩ ⟨ys', zs, hys, rfl, hyz⟩ ⟨a, ha, hxa⟩ ⟨c, hc, hzc⟩
    obtain rfl := root.below_injective hys
    rw [Path.below_below] at hxa hzc
    obtain rfl := root.below_injective hxa
    obtain rfl := root.below_injective hzc
    obtain ⟨b, hb, rfl⟩ := hxy.between hyz ha hc
    exact ⟨b, hb, by rw [Path.below_below]⟩

/-- Entries with a link to a file, links upwards and in a circle, a pipe, a hidden directory and one that
    may not be opened. -/
def linkedEntries : List (String × Node) :=
  [("b.py", .file .empty 0), ("a.py", .link "b.py"), ("up", .link ".."), ("loop", .link "loop"),
    ("queue", .pipe), ("locked", .closed), ("src", .directory [("main.py", .file .empty 0)]),
    (".git", .directory [("head.py", .file .empty 0)])]

/-- A disk with one workspace that has these entries. -/
def linkedWorkspace : FileSystem := ⟨.directory [("ws", .directory linkedEntries)], ["ws"], ["ws"], []⟩

theorem linkedWorkspace_isTree : linkedWorkspace.tree.IsTree := by
  have hsrc : (Node.directory [("main.py", .file .empty 0)]).IsTree :=
    .directory (by decide) (by decide) (by simpa using .file .empty 0)
  have hgit : (Node.directory [("head.py", .file .empty 0)]).IsTree :=
    .directory (by decide) (by decide) (by simpa using .file .empty 0)
  refine .directory (by decide) (by decide) ?_
  simp only [List.mem_singleton, forall_eq]
  refine .directory (by decide) (by decide) ?_
  simp [linkedEntries, Node.IsTree.file, Node.IsTree.link, Node.IsTree.pipe, Node.IsTree.closed, hsrc, hgit]

theorem linkedWorkspace_locate :
    linkedWorkspace.locate ⟨.root, ["ws"]⟩ = .ok (["ws"], .directory linkedEntries) :=
  FileSystem.locate_top rfl (by decide)

theorem walk_finds_exactly_with_links :
    linkedWorkspace.tree.IsTree ∧
      linkedWorkspace.locate ⟨.root, ["ws"]⟩ = .ok (["ws"], .directory linkedEntries) ∧
      ∃ walked, linkedWorkspace.walk? ⟨duplicateLanguages.isSupported, defaultSkips, some 1000⟩
          ⟨.root, ["ws"]⟩ = some walked ∧
        WalksExactly linkedWorkspace ⟨duplicateLanguages.isSupported, defaultSkips, some 1000⟩
          ⟨.root, ["ws"]⟩ linkedEntries (foundPaths walked) :=
  ⟨linkedWorkspace_isTree, linkedWorkspace_locate,
    walk_finds_exactly linkedWorkspace linkedWorkspace_isTree _ _ linkedWorkspace_locate⟩

end CodeCensus
