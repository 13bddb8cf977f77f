import CodeCensus.Tree.File
import CodeCensus.Tree.Write
import Mathlib.Data.List.Basic

/-!
# Places in a tree

In a tree as a disk has it, no directory has two entries with one name, and names are such that the text of
a path can be taken apart again at its slashes. What a path leads to is then a place whose names are all of
that sort, and a place is told by its text.

## Contents
- `PlainName`, `Node.IsTree` — the names and trees of a disk;
- `FileSystem.nodeAt?_of_locate`, `FileSystem.isTree_of_locate` — what is found where a path leads;
- `FileSystem.stat_of_locate`, `FileSystem.readText_of_locate` — the file where a path leads;
- `FileSystem.withFile` — a disk with one file;
- `Path.parse_text` — a path is read back from its text;
- `Path.below`, `Path.relativeText_below_injective` — paths below a directory, and their short texts.
-/

namespace CodeCensus

/-! ## Trees of a disk -/

/-- A name that the text of a path keeps apart from the names around it. -/
structure PlainName (name : String) : Prop where
  ne_empty : name ≠ ""
  ne_dot : name ≠ "."
  no_slash : '/' ∉ name.toList

instance (name : String) : Decidable (PlainName name) :=
  decidable_of_iff (name ≠ "" ∧ name ≠ "." ∧ '/' ∉ name.toList)
    ⟨fun h => ⟨h.1, h.2.1, h.2.2⟩, fun h => ⟨h.ne_empty, h.ne_dot, h.no_slash⟩⟩

/-- A tree as a disk has it: in each directory the names are plain and no two entries have the same. -/
inductive Node.IsTree : Node → Prop
  | file (content : ByteArray) (modified : Int) : IsTree (.file content modified)
  | link (target : String) : IsTree (.link target)
  | pipe : IsTree .pipe
  | closed : IsTree .closed
  | directory {entries : List (String × Node)} (nodup : (entries.map Prod.fst).Nodup)
      (plain : ∀ e ∈ entries, PlainName e.1) (below : ∀ e ∈ entries, IsTree e.2) :
      IsTree (.directory entries)

/-- The child of a node is one of its entries. -/
theorem Node.mem_of_child? {n m : Node} {name : String} (h : n.child? name = some m) :
    ∃ entries, n = .directory entries ∧ (name, m) ∈ entries := by
  cases n with
  | directory entries =>
      obtain ⟨e, hfind, rfl⟩ := Option.map_eq_some_iff.mp h
      have hname : e.1 = name := by simpa using List.find?_some hfind
      exact ⟨entries, rfl, hname ▸ List.mem_of_find?_eq_some hfind⟩
  | file content modified => simp [child?] at h
  | link target => simp [child?] at h
  | pipe => simp [child?] at h
  | closed => simp [child?] at h

/-- A child in a tree has a plain name and is a tree. -/
theorem Node.IsTree.child? {n m : Node} {name : String} (h : n.IsTree) (hchild : n.child? name = some m) :
    PlainName name ∧ m.IsTree := by
  obtain ⟨entries, rfl, hmem⟩ := Node.mem_of_child? hchild
  cases h with
  | directory nodup plain below => exact ⟨plain _ hmem, below _ hmem⟩

namespace FileSystem

variable {fs : FileSystem}

/-- Where a path ends, there is the node that it leads to. -/
theorem nodeAt?_of_follow {links : Nat} {here names place : List String} {n : Node}
    (h : fs.follow links here names = .ok (place, n)) : fs.nodeAt? place = some n := by
  fun_induction follow fs links here names with
  | case1 links here m hm =>
      rw [Except.ok.injEq, Prod.mk.injEq] at h
      rw [← h.1, ← h.2]
      exact hm
  | _ => simp_all

theorem nodeAt?_of_locate {p : Path} {place : List String} {n : Node}
    (h : fs.locate p = .ok (place, n)) : fs.nodeAt? place = some n := by
  unfold locate at h
  split at h
  · cases h
  · exact nodeAt?_of_follow h

/-- Down a list of names, a tree leads to trees by plain names. By induction on the names, for every
    tree to start with. -/
theorem isTree_of_nodeAt? (htree : fs.tree.IsTree) {place : List String} {n : Node}
    (h : fs.nodeAt? place = some n) : (∀ name ∈ place, PlainName name) ∧ n.IsTree := by
  have hnone : ∀ names : List String,
      names.foldl (fun n name => n.bind (·.child? name)) (none : Option Node) = none := by
    intro names
    induction names with
    | nil => rfl
    | cons name rest ih => exact ih
  unfold nodeAt? at h
  generalize fs.tree = tree at htree h
  induction place generalizing tree with
  | nil =>
      rw [List.foldl_nil, Option.some.injEq] at h
      exact ⟨fun name hname => absurd hname List.not_mem_nil, h ▸ htree⟩
  | cons name rest ih =>
      rw [List.foldl_cons, Option.bind_some] at h
      cases hchild : tree.child? name with
      | none =>
          rw [hchild, hnone] at h
          cases h
      | some m =>
          rw [hchild] at h
          obtain ⟨hname, hm⟩ := htree.child? hchild
          obtain ⟨hrest, hn⟩ := ih m hm h
          exact ⟨List.forall_mem_cons.mpr ⟨hname, hrest⟩, hn⟩

/-- What a path leads to in a tree is a place with plain names and a tree there. -/
theorem isTree_of_locate (htree : fs.tree.IsTree) {p : Path} {place : List String} {n : Node}
    (h : fs.locate p = .ok (place, n)) : (∀ name ∈ place, PlainName name) ∧ n.IsTree :=
  isTree_of_nodeAt? htree (nodeAt?_of_locate h)

/-- A name by which an entry below the root is found. -/
structure EntryName (name : String) : Prop where
  no_dot : name ≠ "."
  no_dots : name ≠ ".."
  short : name.utf8ByteSize ≤ maxNameBytes
  text : textFault? (Path.text ⟨.root, [name]⟩) = none

instance (name : String) : Decidable (EntryName name) :=
  decidable_of_iff (name ≠ "." ∧ name ≠ ".." ∧ name.utf8ByteSize ≤ maxNameBytes ∧
      textFault? (Path.text ⟨.root, [name]⟩) = none)
    ⟨fun h => ⟨h.1, h.2.1, h.2.2.1, h.2.2.2⟩, fun h => ⟨h.no_dot, h.no_dots, h.short, h.text⟩⟩

/-- A path of one name leads to the entry with that name below the root, unless that is a link. -/
theorem locate_entry {name : String} {n : Node} (hchild : fs.tree.child? name = some n)
    (hlink : ∀ target, n ≠ .link target) (hname : EntryName name) :
    fs.locate ⟨.root, [name]⟩ = .ok ([name], n) := by
  have hdir : fs.tree.isDirectory = true ∧ fs.tree.isClosed = false := by
    obtain ⟨siblings, htree, _⟩ := Node.mem_of_child? hchild
    rw [htree]
    exact ⟨rfl, rfl⟩
  have hhere : fs.nodeAt? [] = some fs.tree := rfl
  have hthere : fs.nodeAt? [name] = some n := by
    simpa [FileSystem.nodeAt?] using hchild
  have hstart : fs.startOf ⟨.root, [name]⟩ = [] := rfl
  have hend : fs.follow maxLinks [name] [] = .ok ([name], n) := by
    rw [FileSystem.follow, hthere]
  unfold FileSystem.locate
  rw [hname.text, hstart, FileSystem.follow, hhere]
  simp only [hdir.1, hdir.2, hname.no_dot, hname.no_dots, Nat.not_lt.mpr hname.short, hchild, Bool.not_true,
    Bool.false_eq_true, if_false, List.nil_append]
  cases n with
  | link target => exact absurd rfl (hlink target)
  | _ => exact hend

/-- A path of one name leads to the directory with that name below the root. -/
theorem locate_top {name : String} {entries : List (String × Node)}
    (hchild : fs.tree.child? name = some (.directory entries)) (hname : EntryName name) :
    fs.locate ⟨.root, [name]⟩ = .ok ([name], .directory entries) :=
  locate_entry hchild (by simp) hname

theorem locate_root (fs : FileSystem) : fs.locate ⟨.root, []⟩ = .ok ([], fs.tree) := by
  have htext : textFault? (Path.text ⟨.root, []⟩) = none := by decide
  have hstart : fs.startOf ⟨.root, []⟩ = [] := rfl
  unfold FileSystem.locate
  rw [htext, hstart]
  show fs.follow maxLinks [] [] = _
  rw [FileSystem.follow]
  rfl

section Found

variable {path : Path} {place : List String} {content : ByteArray} {modified : Int}
  (hlocate : fs.locate path = .ok (place, .file content modified))

include hlocate

theorem stat_of_locate : fs.stat path = .ok ⟨true, content.size, modified⟩ := by
  unfold stat
  rw [hlocate]
  rfl

theorem readBytes_of_locate : fs.readBytes path = .ok content := by
  unfold readBytes
  rw [hlocate]

theorem readText_of_locate {cs : List Char} (hdecode : Text.decodeUtf8 content.toList = .ok cs) :
    fs.readText path = .ok (String.ofList (Text.universalNewlines cs)) := by
  unfold readText
  rw [readBytes_of_locate hlocate]
  simp only [hdecode]

end Found

/-- A disk with one file, and with everything else at its root. -/
def withFile (name : String) (content : ByteArray) : FileSystem :=
  ⟨.directory [(name, .file content 0)], [], [], []⟩

theorem withFile_locate {name : String} (content : ByteArray) (hname : EntryName name) :
    (withFile name content).locate ⟨.root, [name]⟩ = .ok ([name], .file content 0) :=
  locate_entry (by simp [withFile, Node.child?]) (by simp) hname

end FileSystem

/-! ## Texts of paths -/

theorem betweenSlashes_slash (s : String) : betweenSlashes ("/" ++ s) = "" :: betweenSlashes s := by
  simp [betweenSlashes, List.splitOn_cons_eq_if_modifyHead]

/-- Names joined by slashes are found between the slashes. -/
theorem betweenSlashes_intercalate {names : List String} (hne : names ≠ [])
    (hplain : ∀ name ∈ names, PlainName name) :
    betweenSlashes (String.intercalate "/" names) = names := by
  have hslash : ∀ cs ∈ names.map String.toList, '/' ∉ cs := by
    intro cs hcs
    obtain ⟨name, hname, rfl⟩ := List.mem_map.mp hcs
    exact (hplain name hname).no_slash
  unfold betweenSlashes
  rw [String.toList_intercalate]
  change (List.splitOn '/' (['/'].intercalate (names.map String.toList))).map String.ofList = names
  rw [List.splitOn_intercalate '/' hslash (by simpa using hne), List.map_map]
  simp [Function.comp_def]

namespace Path

/-- The slashes of an anchor bring no names. -/
theorem names_anchor (a : Anchor) (s : String) : names (a.text ++ s) = names s := by
  cases a with
  | here => simp [Anchor.text]
  | root => simp [Anchor.text, names, betweenSlashes_slash]
  | doubleRoot =>
      have hsplit : "//" ++ s = "/" ++ ("/" ++ s) := by
        rw [← String.append_assoc]
        rfl
      simp [Anchor.text, names, hsplit, betweenSlashes_slash]

/-- Plain names joined by slashes are all kept. -/
theorem names_intercalate {parts : List String} (hne : parts ≠ [])
    (hplain : ∀ name ∈ parts, PlainName name) : names (String.intercalate "/" parts) = parts := by
  unfold names
  rw [betweenSlashes_intercalate hne hplain, List.filter_eq_self]
  intro name hname
  simp [(hplain name hname).ne_empty, (hplain name hname).ne_dot]

/-- An anchor is told from its slashes, unless more of them follow. -/
theorem anchorOf_anchor (a : Anchor) {s : String} {c : Char} {cs : List Char}
    (hs : s.toList = c :: cs) (hc : c ≠ '/') : anchorOf (a.text ++ s) = a := by
  unfold anchorOf
  rw [String.toList_append, hs]
  cases a with
  | here => simp [Anchor.text, hc]
  | root => simp [Anchor.text, hc]
  | doubleRoot => simp [Anchor.text, hc]

/-- The text of plain names starts with the first of them, not with a slash. -/
theorem exists_first_char {name : String} (hname : PlainName name) (rest : List String) :
    ∃ c cs, (String.intercalate "/" (name :: rest)).toList = c :: cs ∧ c ≠ '/' := by
  cases hchars : name.toList with
  | nil => exact absurd (String.toList_eq_nil_iff.mp hchars) hname.ne_empty
  | cons c cs =>
      have hc : c ≠ '/' := by
        rintro rfl
        exact hname.no_slash (hchars ▸ List.mem_cons_self)
      cases rest with
      | nil => exact ⟨c, cs, by simpa using hchars, hc⟩
      | cons next others =>
          refine ⟨c, cs ++ ("/" ++ String.intercalate "/" (next :: others)).toList, ?_, hc⟩
          rw [String.intercalate_cons_cons, String.append_assoc, String.toList_append, hchars,
            List.cons_append]

/-- **A path with plain names is read back from its text.** -/
theorem parse_text {p : Path} (hplain : ∀ name ∈ p.parts, PlainName name) : parse p.text = p := by
  obtain ⟨anchor, parts⟩ := p
  cases parts with
  | nil => cases anchor <;> decide
  | cons name rest =>
      have htext : (Path.mk anchor (name :: rest)).text =
          anchor.text ++ String.intercalate "/" (name :: rest) := by simp [text]
      obtain ⟨c, cs, hchars, hc⟩ := exists_first_char (hplain name List.mem_cons_self) rest
      unfold parse
      rw [htext, anchorOf_anchor anchor hchars hc, names_anchor,
        names_intercalate (List.cons_ne_nil name rest) hplain]

/-! ## Paths below a directory -/

/-- The path that names lead to from a path. -/
def below (p : Path) (names : List String) : Path := ⟨p.anchor, p.parts ++ names⟩

@[simp] theorem child_eq_below (p : Path) (name : String) : p.child name = p.below [name] := rfl

@[simp] theorem below_below (p : Path) (xs ys : List String) :
    (p.below xs).below ys = p.below (xs ++ ys) := by
  simp [below]

theorem below_injective (p : Path) : Function.Injective p.below := by
  intro xs ys h
  simpa [below] using h

/-- What lies below a path is found again from there. -/
theorem relativeTo?_eq_some {p base rest : Path} :
    p.relativeTo? base = some rest ↔ p = base.below rest.parts ∧ rest.anchor = .here := by
  unfold relativeTo?
  constructor
  · intro h
    split at h
    · rename_i hprefix
      rw [Option.some.injEq] at h
      obtain ⟨tail, htail⟩ := List.isPrefixOf_iff_prefix.mp hprefix.2
      have hrest : p.parts.drop base.parts.length = tail := by rw [← htail, List.drop_left]
      subst h
      refine ⟨?_, rfl⟩
      show p = ⟨base.anchor, base.parts ++ p.parts.drop base.parts.length⟩
      rw [hrest, htail, ← hprefix.1]
    · cases h
  · rintro ⟨rfl, hanchor⟩
    obtain ⟨anchor, parts⟩ := rest
    simp only at hanchor
    subst hanchor
    simp [below]

@[simp] theorem relativeTo?_below (p : Path) (names : List String) :
    (p.below names).relativeTo? p = some ⟨.here, names⟩ :=
  relativeTo?_eq_some.mpr ⟨rfl, rfl⟩

/-- Below one directory, different plain names make different short texts. -/
theorem relativeText_below_injective (p : Path) {xs ys : List String}
    (hxs : ∀ name ∈ xs, PlainName name) (hys : ∀ name ∈ ys, PlainName name)
    (h : (p.below xs).relativeText p = (p.below ys).relativeText p) : xs = ys := by
  unfold relativeText at h
  rw [relativeTo?_below, relativeTo?_below, Option.getD_some, Option.getD_some] at h
  have hread := congrArg parse h
  rw [parse_text hxs, parse_text hys] at hread
  exact congrArg parts hread

end Path

end CodeCensus
