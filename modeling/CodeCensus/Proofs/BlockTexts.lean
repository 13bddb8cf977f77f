import CodeCensus.Proofs.CodeRuns
import CodeCensus.Proofs.RepeatedContent
import CodeCensus.Proofs.TextParts
import Mathlib.Data.Set.Function

/-!
# Texts of exact blocks

Blocks are grouped by the hash of their text, and the text is made of trimmed lines with line feeds between them.
No line of a file has a line feed in it, so the lines can be told from the text, whatever file a block comes from
and whatever lines are comments there. As long as no two texts that occur have the same hash, a group stands for
one list of lines. The group takes its number of lines and its text from its first member, and they are those of
every member.

## Contents
- `CodeBlock.WellCut`, `wellCut_of_mem` — what every block of a file is;
- `CodeBlock.lines_eq_of_content_eq` — the lines can be told from the text;
- `mem_exactBlockGroups` — the groups, by their hashes;
- `exact_block_groups_share_text` — what blocks are in one group, and what they have in common.
-/

namespace CodeCensus

/-! ## Blocks of a file -/

/-- The block has lines without line feeds in them, its span is as long as its text, and its hash is that of its
    text. -/
structure CodeBlock.WellCut (b : CodeBlock) : Prop where
  nonempty : b.lines ≠ []
  unbroken : ∀ line ∈ b.lines, '\n' ∉ line.toList
  span : b.startLine + b.lineCount = b.endLine + 1
  hash_eq : b.hash = hashText b.content

/-- Every block of a file is such a block. -/
theorem wellCut_of_mem {minLines : Nat} (hmin : 1 ≤ minLines) {profile : Profile} {content : String} {b : CodeBlock}
    (hb : b ∈ extractBlocks profile minLines (Text.splitLines content)) : b.WellCut := by
  have hspans := (extractBlocks_spans hmin profile (Text.splitLines content)).2 b hb
  obtain ⟨first, last, _, _, rfl⟩ := (mem_extractBlocks hmin).mp hb
  refine ⟨hspans.nonempty, ?_, hspans.length_eq, rfl⟩
  intro line hline
  obtain ⟨whole, hwhole, rfl⟩ := List.mem_map.mp hline
  have hmem : whole ∈ Text.splitLines content := List.mem_of_mem_drop (List.mem_of_mem_take hwhole)
  rw [Text.toList_trim]
  exact fun hnewline => Text.not_mem_of_mem_splitLines hmem (Text.trimWhere_subset _ _ hnewline)

/-- **The lines of a block can be told from its text.** -/
theorem CodeBlock.lines_eq_of_content_eq {b b' : CodeBlock} (hb : b.WellCut) (hb' : b'.WellCut)
    (h : b.content = b'.content) : b.lines = b'.lines := by
  have hlines : ∀ {b : CodeBlock}, b.WellCut → Text.segments b.content.toList = b.lines.map String.toList := by
    intro b hb
    rw [CodeBlock.content, Text.toList_joinTexts, Text.segments_joinLines]
    · exact fun hnil => hb.nonempty (List.map_eq_nil_iff.mp hnil)
    · intro line hline
      obtain ⟨text, htext, rfl⟩ := List.mem_map.mp hline
      exact hb.unbroken text htext
  have hsame : b.lines.map String.toList = b'.lines.map String.toList := by
    rw [← hlines hb, h, hlines hb']
  exact List.map_injective_iff.mpr (fun _ _ => String.toList_inj.mp) hsame

/-- The blocks of the record are those of some content, whatever lines are comments there. -/
def FileRecord.Extracted (r : FileRecord) : Prop :=
  ∃ profile minLines content, 1 ≤ minLines ∧ r.blocks = extractBlocks profile minLines (Text.splitLines content)

theorem FileRecord.extracted_ofContent (path : Path) (relativePath : String) (language : Language) (sizeBytes : Nat)
    {minLines : Nat} (hmin : 1 ≤ minLines) (content : String) :
    (FileRecord.ofContent path relativePath language sizeBytes minLines content).Extracted :=
  ⟨_, minLines, content, hmin, rfl⟩

theorem wellCut_of_mem_allBlocks {records : List FileRecord} (hrecords : ∀ r ∈ records, r.Extracted)
    {o : FileRecord × CodeBlock} (ho : o ∈ allBlocks records) : o.2.WellCut := by
  obtain ⟨r, hr, hblock⟩ := List.mem_flatMap.mp ho
  obtain ⟨b, hb, rfl⟩ := List.mem_map.mp hblock
  obtain ⟨profile, minLines, content, hmin, hblocks⟩ := hrecords r hr
  rw [hblocks] at hb
  exact wellCut_of_mem hmin hb

/-! ## Groups of blocks -/

/-- What a group of blocks takes from its occurrences. -/
theorem exactBlockGroup?_eq_some {hash : String} {occurrences : List (FileRecord × CodeBlock)} {g : DuplicateGroup}
    (h : exactBlockGroup? hash occurrences = some g) :
    g.hash = some hash ∧ g.members = occurrences.map (fun o => Member.ofBlock o.1 o.2) ∧
      ∃ first ∈ occurrences, g.duplicateLines = first.2.lineCount ∧ g.content = some first.2.content := by
  match occurrences with
  | [] => cases h
  | [_] => cases h
  | first :: _ :: _ =>
      cases h
      exact ⟨rfl, rfl, first, List.mem_cons_self, rfl, rfl⟩

/-- Two occurrences are enough for a group. -/
theorem exists_exactBlockGroup? (hash : String) {occurrences : List (FileRecord × CodeBlock)}
    (h : 2 ≤ occurrences.length) : ∃ g, exactBlockGroup? hash occurrences = some g := by
  have hmembers : 2 ≤ (occurrences.map fun o => Member.ofBlock o.1 o.2).length := by rwa [List.length_map]
  exact (DuplicateGroup.exists_ofMembers? hmembers).imp fun _ hg => hg.1

theorem two_le_length_of_ne {α : Type} {xs : List α} {x y : α} (hx : x ∈ xs) (hy : y ∈ xs) (hne : x ≠ y) :
    2 ≤ xs.length := by
  match xs with
  | [] => cases hx
  | [only] => exact absurd ((List.mem_singleton.mp hx).trans (List.mem_singleton.mp hy).symm) hne
  | _ :: _ :: others => exact Nat.le_add_left 2 others.length

/-- **The groups of blocks**: each is made of all blocks with one hash. -/
theorem mem_exactBlockGroups {records : List FileRecord} {g : DuplicateGroup} :
    g ∈ exactBlockGroups records ↔ ∃ hash ∈ (allBlocks records).map (fun o => o.2.hash),
      exactBlockGroup? hash ((allBlocks records).filter fun o => o.2.hash = hash) = some g := by
  unfold exactBlockGroups
  rw [groupBy_entries, List.filterMap_map, List.mem_filterMap]
  simp only [List.mem_eraseDups, Function.comp_apply]

/-- The blocks that a group is made of, each with its position among all blocks: those with the hash of the group. -/
def memberBlocks (records : List FileRecord) (g : DuplicateGroup) : List ((FileRecord × CodeBlock) × Nat) :=
  (allBlocks records).zipIdx.filter fun o => g.hash = some o.1.2.hash

theorem memberBlocks_eq {records : List FileRecord} {g : DuplicateGroup} {hash : String} (h : g.hash = some hash) :
    memberBlocks records g = occurrencesOf (fun o => o.2.hash) (allBlocks records) hash := by
  unfold memberBlocks occurrencesOf
  rw [h]
  congr 1
  funext o
  simp [eq_comm]

/-- A hash that two blocks have makes a group. -/
theorem exists_group_of_hash_eq {records : List FileRecord} {o o' : (FileRecord × CodeBlock) × Nat}
    (ho : o ∈ (allBlocks records).zipIdx) (ho' : o' ∈ (allBlocks records).zipIdx) (hne : o ≠ o')
    (h : o'.1.2.hash = o.1.2.hash) :
    ∃ g ∈ exactBlockGroups records, o ∈ memberBlocks records g ∧ o' ∈ memberBlocks records g := by
  have hmem : o ∈ occurrencesOf (fun o => o.2.hash) (allBlocks records) o.1.2.hash :=
    List.mem_filter.mpr ⟨ho, decide_eq_true rfl⟩
  have hmem' : o' ∈ occurrencesOf (fun o => o.2.hash) (allBlocks records) o.1.2.hash :=
    List.mem_filter.mpr ⟨ho', decide_eq_true h⟩
  have htwo : 2 ≤ ((allBlocks records).filter fun x => x.2.hash = o.1.2.hash).length := by
    rw [← occurrencesOf_map_fst, List.length_map]
    exact two_le_length_of_ne hmem hmem' hne
  obtain ⟨g, hgroup⟩ := exists_exactBlockGroup? o.1.2.hash htwo
  obtain ⟨hhash, _⟩ := exactBlockGroup?_eq_some hgroup
  refine ⟨g, mem_exactBlockGroups.mpr ⟨o.1.2.hash, ?_, hgroup⟩, ?_, ?_⟩
  · exact List.mem_map_of_mem (List.fst_mem_of_mem_zipIdx ho)
  · rwa [memberBlocks_eq hhash]
  · rwa [memberBlocks_eq hhash]

/-- The members of the group are the blocks with its hash. They are as long as the group says, by their lines and by
    their spans, and have its text. -/
structure SharesText (records : List FileRecord) (g : DuplicateGroup) : Prop where
  members_eq : g.members = (memberBlocks records g).map fun o => Member.ofBlock o.1.1 o.1.2
  lines_eq : ∀ m ∈ g.members, m.lines = g.duplicateLines
  span_eq : ∀ m ∈ g.members, ∃ first last, m.startLine = some first ∧ m.endLine = some last ∧
    last - first + 1 = g.duplicateLines
  content_eq : ∀ o ∈ memberBlocks records g, g.content = some o.1.2.content

/-- The texts of all blocks. -/
def blockTexts (records : List FileRecord) : Set String := {text | ∃ o ∈ allBlocks records, o.2.content = text}

section SharedText

variable {records : List FileRecord} (hrecords : ∀ r ∈ records, r.Extracted)
  (hinjective : Set.InjOn hashText (blockTexts records))
include hrecords hinjective

/-- Blocks with one hash have the same lines. -/
theorem lines_eq_of_hash_eq {o o' : FileRecord × CodeBlock} (ho : o ∈ allBlocks records)
    (ho' : o' ∈ allBlocks records) (h : o.2.hash = o'.2.hash) : o.2.lines = o'.2.lines := by
  have hcut := wellCut_of_mem_allBlocks hrecords ho
  have hcut' := wellCut_of_mem_allBlocks hrecords ho'
  rw [hcut.hash_eq, hcut'.hash_eq] at h
  exact CodeBlock.lines_eq_of_content_eq hcut hcut' (hinjective ⟨o, ho, rfl⟩ ⟨o', ho', rfl⟩ h)

theorem sharesText_of_mem {g : DuplicateGroup} (hg : g ∈ exactBlockGroups records) : SharesText records g := by
  obtain ⟨hash, _, hgroup⟩ := mem_exactBlockGroups.mp hg
  obtain ⟨hhash, hmembers, first, hfirst, hcount, hcontent⟩ := exactBlockGroup?_eq_some hgroup
  obtain ⟨hfirst, hfirstHash⟩ := List.mem_filter.mp hfirst
  have hsame : ∀ o ∈ (allBlocks records).filter (fun o => o.2.hash = hash), o.2.lines = first.2.lines := by
    intro o ho
    obtain ⟨ho, hoHash⟩ := List.mem_filter.mp ho
    exact lines_eq_of_hash_eq hrecords hinjective ho hfirst
      ((of_decide_eq_true hoHash).trans (of_decide_eq_true hfirstHash).symm)
  have hlength : ∀ o ∈ (allBlocks records).filter (fun o => o.2.hash = hash),
      (o.2.lineCount : Int) = g.duplicateLines := by
    intro o ho
    rw [hcount, CodeBlock.lineCount, hsame o ho]
    rfl
  constructor
  case members_eq =>
    rw [hmembers, memberBlocks_eq hhash, ← occurrencesOf_map_fst, List.map_map]
    rfl
  case lines_eq =>
    intro m hm
    rw [hmembers] at hm
    obtain ⟨o, ho, rfl⟩ := List.mem_map.mp hm
    exact hlength o ho
  case span_eq =>
    -- spans are counted from the place in the file, so they come from the block and not from its text
    intro m hm
    rw [hmembers] at hm
    obtain ⟨o, ho, rfl⟩ := List.mem_map.mp hm
    have hspan := (wellCut_of_mem_allBlocks hrecords (List.mem_filter.mp ho).1).span
    refine ⟨o.2.startLine, o.2.endLine, rfl, rfl, ?_⟩
    have := hlength o ho
    omega
  case content_eq =>
    intro o ho
    rw [memberBlocks_eq hhash] at ho
    have ho' : o.1 ∈ (allBlocks records).filter fun o => o.2.hash = hash := by
      rw [← occurrencesOf_map_fst]
      exact List.mem_map_of_mem ho
    rw [hcontent, CodeBlock.content, CodeBlock.content, hsame o.1 ho']

/-- **Exact groups of blocks share their text.** If no two texts of blocks have the same hash, two blocks are in
    one group if and only if they have the same trimmed lines; and every group has the number of lines, the length
    of the span and the text of each of its members. -/
theorem exact_block_groups_share_text :
    (∀ o ∈ (allBlocks records).zipIdx, ∀ o' ∈ (allBlocks records).zipIdx, o ≠ o' →
      ((∃ g ∈ exactBlockGroups records, o ∈ memberBlocks records g ∧ o' ∈ memberBlocks records g) ↔
        o.1.2.lines = o'.1.2.lines)) ∧
      ∀ g ∈ exactBlockGroups records, SharesText records g := by
  refine ⟨?_, fun g hg => sharesText_of_mem hrecords hinjective hg⟩
  intro o ho o' ho' hne
  have hmem := List.fst_mem_of_mem_zipIdx ho
  have hmem' := List.fst_mem_of_mem_zipIdx ho'
  constructor
  · rintro ⟨g, _, hin, hin'⟩
    have hhash := of_decide_eq_true (List.mem_filter.mp hin).2
    have hhash' := of_decide_eq_true (List.mem_filter.mp hin').2
    exact lines_eq_of_hash_eq hrecords hinjective hmem hmem' (Option.some.inj (hhash.symm.trans hhash'))
  · intro hlines
    have hcut := wellCut_of_mem_allBlocks hrecords hmem
    have hcut' := wellCut_of_mem_allBlocks hrecords hmem'
    apply exists_group_of_hash_eq ho ho' hne
    rw [hcut.hash_eq, hcut'.hash_eq, CodeBlock.content, CodeBlock.content, hlines]

end SharedText

/-- The same block in files of two languages: after a comment of the one, before a comment of the other, and with
    other blanks. -/
theorem exact_block_groups_share_text_two_languages :
    let records : List FileRecord :=
      [.ofContent ⟨.root, ["a.py"]⟩ "a.py" .python 9 2 "# x\na\n b\n",
        .ofContent ⟨.root, ["b.js"]⟩ "b.js" .javascript 10 2 "a\nb\t\n// # x"]
    (∀ r ∈ records, r.Extracted) ∧ Set.InjOn hashText (blockTexts records) ∧
      ∃ g ∈ exactBlockGroups records, g.duplicateLines = 2 ∧ g.content = some "a\nb" := by
  intro records
  have hrecords : ∀ r ∈ records, r.Extracted := by
    intro r hr
    rcases List.mem_pair.mp hr with rfl | rfl
    · exact FileRecord.extracted_ofContent _ _ _ _ (by decide) _
    · exact FileRecord.extracted_ofContent _ _ _ _ (by decide) _
  obtain ⟨r, r', hblocks⟩ : ∃ r r', allBlocks records =
      [(r, .ofLines 1 3 ["a", "b"]), (r', .ofLines 0 2 ["a", "b"])] := ⟨_, _, rfl⟩
  have htexts : ∀ text ∈ blockTexts records, text = "a\nb" := by
    rintro text ⟨o, ho, rfl⟩
    rw [hblocks] at ho
    rcases List.mem_pair.mp ho with rfl | rfl
    · rfl
    · rfl
  have hinjective : Set.InjOn hashText (blockTexts records) := by
    intro text htext text' htext' _
    rw [htexts text htext, htexts text' htext']
  obtain ⟨hsame, hshares⟩ := exact_block_groups_share_text hrecords hinjective
  rw [hblocks] at hsame
  obtain ⟨g, hg, hin, _⟩ := (hsame ((r, .ofLines 1 3 ["a", "b"]), 0) (by simp) ((r', .ofLines 0 2 ["a", "b"]), 1)
    (by simp) (by simp)).mpr rfl
  have hshared := hshares g hg
  have hmember : Member.ofBlock r (.ofLines 1 3 ["a", "b"]) ∈ g.members := by
    rw [hshared.members_eq]
    exact List.mem_map_of_mem hin
  exact ⟨hrecords, hinjective, g, hg, (hshared.lines_eq _ hmember).symm, hshared.content_eq _ hin⟩

end CodeCensus
