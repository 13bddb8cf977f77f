import CodeCensus.Proofs.AcceptedSettings
import CodeCensus.Proofs.Jaccard
import CodeCensus.Proofs.ReportedPairs
import CodeCensus.Proofs.StoppedScan
import CodeCensus.Value.Arithmetic

/-!
# Checked runs

A search for duplicates divides, takes items by their position and fields by their name, and makes groups of
members. Where a definition gives such an operation a value outside its domain, a run could go wrong unnoticed.
So the search is written once more, with each operation checked, and an operation outside its domain breaks the
run. No run is ever broken, on any disk and under any settings: the checked search gives what the search gives.

What a search returns is a report or a failure, and which of the two is told by its settings and its workspace
alone. A search whose settings are rejected shows the workspace as it was given; where integers are not written out
beyond a number of digits, a workspace that is such an integer cannot be shown, and nothing is returned.

## Contents
- `Breach` — what breaks a checked run;
- `Checked.findDuplicates` — the search with its operations checked, from the quotients up to the report;
- `Checked.jaccard_eq`, `Checked.row_eq`, `Checked.runFor_eq`, `Checked.report_eq` — no part of it is broken;
- `Value.IsReport`, `Value.IsFailure` — the two kinds of values, by their fields;
- `SearchRefused` — why a search does not come to its workspace, with the first error;
- `findDuplicatesWithin_rejected`, `findDuplicatesWithin_cases` — what a search returns;
- `duplicates_run_succeeds_iff` — the outcomes of a search.
-/

namespace CodeCensus

/-- What breaks a checked run. -/
inductive Breach where
  | divisionByZero
  | groupTooSmall (kind : DuplicateKind)
  | noItem (position : Nat)
  | noField (name : String)
  | noNumber (field : String)
  | noWorkers
  deriving DecidableEq, Repr

/-! ## The search with its operations checked -/

namespace Checked

/-- A quotient of counts. -/
def ratio (part total : Nat) : Except Breach Double :=
  if total = 0 then .error .divisionByZero else .ok (Double.ofRatio false part total)

/-- A quotient of integers. -/
def quotient (part total : Int) : Except Breach Double :=
  if total = 0 then .error .divisionByZero else .ok (Double.ofIntRatio part total)

/-- The item at a position. -/
def item {α : Type} (items : List α) (position : Nat) : Except Breach α :=
  match items[position]? with
  | some x => .ok x
  | none => .error (.noItem position)

/-- The number in a field of a value. -/
def numberField (v : Value) (name : String) : Except Breach Number :=
  match v.get? name with
  | none => .error (.noField name)
  | some given =>
    match given.number? with
    | none => .error (.noNumber name)
    | some n => .ok n

/-- The group of the given locations. -/
def group (kind : DuplicateKind) (members : List Member) (similarity : Value) (duplicateLines : Int)
    (hash content : Option String) : Except Breach DuplicateGroup :=
  match DuplicateGroup.ofMembers? kind members similarity duplicateLines hash content with
  | some g => .ok g
  | none => .error (.groupTooSmall kind)

/-- The Jaccard coefficient of two sets. -/
def jaccard (a b : Std.HashSet String) : Except Breach Double :=
  if a.isEmpty && b.isEmpty then ratio 1 1
  else if a.isEmpty || b.isEmpty then .ok Double.zero
  else
    let shared := sharedCount a b
    ratio shared (a.size + b.size - shared)

/-- The sizes alone keep the coefficient below the threshold. -/
def cannotReach (threshold : Number) (m n : Nat) : Except Breach Bool :=
  if max m n = 0 then .ok false
  else do
    let bound ← ratio (min m n) (max m n)
    return (Number.double bound).lt threshold

/-- The coefficient of a pair, if the pair is compared and similar enough. -/
def pairSimilarity? (options : SimilarityOptions) (excluded : Candidate → Candidate → Bool)
    (a b : Candidate) : Except Breach (Option Double) := do
  if excluded a b then return none
  let hopeless ← if options.prune then cannotReach options.threshold a.tokens.size b.tokens.size else pure false
  if hopeless then return none
  let similarity ← jaccard a.tokens b.tokens
  return if options.threshold.le (.double similarity) then some similarity else none

/-- The hits of a row. -/
def row (options : SimilarityOptions) (excluded : Candidate → Candidate → Bool)
    (candidates : List Candidate) (row : Nat) : Except Breach (List Hit) := do
  let first ← item candidates row
  let found ← (candidates.drop (row + 1)).zipIdx.mapM fun (second, k) => do
    let similarity ← pairSimilarity? options excluded first second
    return similarity.map fun s => (⟨row, row + 1 + k, s⟩ : Hit)
  return found.reduceOption

/-- The turn of one worker. -/
def step (compareRow : Nat → Except Breach (List Hit)) (worker : Nat) (stop : Bool) (s : Scan) :
    Except Breach Scan :=
  match s.pending[worker]? with
  | some (row :: rest) =>
    if stop then
      .ok { s with pending := s.pending.set worker [], checks := s.checks + 1, stopped := true }
    else do
      let hits ← compareRow row
      return { s with pending := s.pending.set worker rest, hits := hits :: s.hits, checks := s.checks + 1 }
  | _ => .ok s

/-- Takes a number of turns. -/
def runFor (compareRow : Nat → Except Breach (List Hit)) (stop : Nat → Bool) (turn : Nat → Nat) :
    Nat → Scan → Except Breach Scan
  | 0, s => .ok s
  | turns + 1, s =>
    match s.next? turn with
    | none => .ok s
    | some worker => do
      let s' ← step compareRow worker (stop s.checks) s
      runFor compareRow stop turn turns s'

/-- The rows of each worker. -/
def dealRows (workers rows : Nat) : Except Breach (List (List Nat)) :=
  if partitions workers rows = 0 then .error .noWorkers else .ok (CodeCensus.dealRows workers rows)

/-- The group of a hit. -/
def hitGroup (kind : DuplicateKind) (candidates : List Candidate) (h : Hit) : Except Breach DuplicateGroup := do
  let a ← item candidates h.row
  let b ← item candidates h.column
  group kind [a.member, b.member] (.float h.similarity) (min a.lines b.lines) none none

/-- Compares all pairs of candidates. -/
def scanPairs (options : SimilarityOptions) (kind : DuplicateKind)
    (excluded : Candidate → Candidate → Bool) (candidates : List Candidate) (stop : Nat → Bool)
    (session : Session) (turn : Nat → Nat) : Except Breach ScanOutcome :=
  let checked := session.checks + 1
  if stop session.checks then .ok ⟨[], ⟨checked, true⟩, false⟩
  else if candidates.length < 2 then .ok ⟨[], ⟨checked, session.truncated⟩, false⟩
  else do
    let rows ← dealRows options.workers (candidates.length - 1)
    let start := Scan.start rows checked
    let scan ← runFor (row options excluded candidates) stop turn start.rowsLeft start
    let groups ← scan.sortedHits.mapM (hitGroup kind candidates)
    return ⟨groups, ⟨scan.checks, session.truncated || scan.stopped⟩, scan.stopped⟩

/-- One group for each canonical text that several files share. -/
def exactFileGroups (records : List FileRecord) : Except Breach (List DuplicateGroup) :=
  ((groupBy FileRecord.contentHash records).entries.filter fun e => 2 ≤ e.2.length).mapM fun e => do
    let first ← item e.2 0
    group .exactFile (e.2.map Member.ofFile) (.float (.ofInt 1)) first.lines (some e.1) none

/-- One group for each text that several blocks share. -/
def exactBlockGroups (records : List FileRecord) : Except Breach (List DuplicateGroup) :=
  ((groupBy (fun o : FileRecord × CodeBlock => o.2.hash) (allBlocks records)).entries.filter
    fun e => 2 ≤ e.2.length).mapM fun e => do
    let first ← item e.2 0
    group .exactBlock (e.2.map fun o => Member.ofBlock o.1 o.2) (.float (.ofInt 1)) first.2.lineCount
      (some e.1) (some first.2.content)

/-- The percentage of two integers. -/
def percentage (part total : Int) : Except Breach Number :=
  if total = 0 then .ok (.int 0)
  else do
    let share ← quotient part total
    return .double ((share * Double.ofInt 100).roundPlaces 2)

/-- The figures of the given groups. -/
def summarize (totalFiles : Int) (records : List FileRecord) (groups : List DuplicateGroup) :
    Except Breach DuplicateSummary := do
  let duplicateLines := sumIntegers (groups.map (·.duplicateLines))
  let share ← percentage duplicateLines (sumIntegers (records.map (·.lines)))
  return ⟨totalFiles, records.length, groups.length, duplicateLines, share,
    (Std.HashSet.ofList (memberPaths groups)).size⟩

/-- The recommendations, with the rate taken from the summary section of the report. -/
def advice (exact similar : List DuplicateGroup) (summary : DuplicateSummary) :
    Except Breach (List String) := do
  let rate ← numberField summary.toValue "duplicatePercentage"
  return duplicateAdvice exact similar { summary with percentage := rate }

/-- Reports on analysed files. -/
def report (host : RunHost) (settings : Settings) (root : Path) (totalFiles : Nat)
    (records : List FileRecord) : Except Breach (List Notice × DuplicateReport) := do
  let exactFiles ← exactFileGroups records
  let exactBlocks ← exactBlockGroups records
  let options := similarityOptions settings host.processors
  let stop := host.stops settings.timeout
  let files ← scanPairs options .similarFile sameContent (fileCandidates options.minTokens records) stop
    ⟨0, false⟩ (host.turn .similarFile)
  let blocks ← scanPairs options .similarBlock sameFileOrText (blockCandidates options.minTokens records) stop
    files.session (host.turn .similarBlock)
  let exact := exactFiles ++ exactBlocks
  let similar := files.groups ++ blocks.groups
  let summary ← summarize totalFiles records (exact ++ similar)
  let advice ← advice exact similar summary
  return (stopNotices .similarFile files ++ stopNotices .similarBlock blocks,
    ⟨root, blocks.session.truncated, summary, exact, similar, records, advice⟩)

/-- Runs duplicate detection under accepted settings. -/
def runDuplicates (fs : FileSystem) (host : RunHost) (settings : Settings) :
    Except Breach (List Notice × Except RunFailure DuplicateReport) :=
  match fs.resolveWorkspace settings.workspace.text settings.workspace with
  | .error e => .ok ([], .error (.workspace e))
  | .ok root => do
    let walked := (fs.walk? (duplicateWalk settings) root).getD []
    let paths := foundPaths walked
    let minLines := (settings.thresholds.int .minLines).toNat
    if settings.maxWorkers host.processors = 0 then throw .noWorkers
    let gathered := analyzeFiles root (analyzeSource fs minLines root) paths
    let notices := walkNotices walked ++ gathered.errors.map .fileSkipped
    match host.check settings.timeout 0 with
    | .error fault => return (notices, .error (.number fault))
    | .ok _ =>
      let made ← report host settings root paths.length gathered.results
      return (notices ++ made.1, .ok made.2)

/-- The duplicate report of loosely typed settings, or the value in its place. -/
def findDuplicates (fs : FileSystem) (host : RunHost) (raw : RawSettings) :
    Except Breach (List Notice × Value) :=
  match Settings.read raw with
  | (notices, .error e) =>
    let given := raw.workspace.display
    .ok (notices ++ [settingsNotice given e], DuplicateReport.failureValue given e.message)
  | (notices, .ok settings) => do
    match ← runDuplicates fs host settings with
    | (more, .ok report) => return (notices ++ more, report.toValue)
    | (more, .error failure) =>
      let given := settings.workspace.text
      return (notices ++ more ++ [failure.notice given], DuplicateReport.failureValue given failure.message)

/-! ## Comparing pairs -/

theorem ratio_eq {part total : Nat} (h : total ≠ 0) : ratio part total = .ok (Double.ofRatio false part total) :=
  if_neg h

/-- The union of two sets that are not empty has a member. -/
theorem jaccard_eq (a b : Std.HashSet String) : jaccard a b = .ok (CodeCensus.jaccard a b) := by
  unfold jaccard CodeCensus.jaccard
  split
  next => rfl
  next =>
    split
    next => rfl
    next hsome =>
      have ha : a.size ≠ 0 := by
        simp only [Bool.or_eq_true, not_or, Std.HashSet.isEmpty_eq_size_eq_zero, beq_iff_eq] at hsome
        exact hsome.1
      -- the members in common are all counted in `b`, so those of `a` are left over
      have hshared := sharedCount_le_right a b
      exact ratio_eq (by omega)

theorem cannotReach_eq (threshold : Number) (m n : Nat) :
    cannotReach threshold m n = .ok (CodeCensus.cannotReach threshold m n) := by
  unfold cannotReach CodeCensus.cannotReach
  by_cases hzero : max m n = 0
  · simp [hzero]
  · rw [if_neg hzero, ratio_eq hzero]
    simp [hzero, bind, Except.bind, pure, Except.pure, sizeBound]

theorem pairSimilarity?_eq (options : SimilarityOptions) (excluded : Candidate → Candidate → Bool)
    (a b : Candidate) :
    pairSimilarity? options excluded a b = .ok (CodeCensus.pairSimilarity? options excluded a b) := by
  unfold pairSimilarity? CodeCensus.pairSimilarity?
  rw [jaccard_eq, cannotReach_eq]
  by_cases hexcluded : excluded a b = true
  · simp [hexcluded, pure, Except.pure]
  · cases hprune : options.prune
    · simp [hexcluded, bind, Except.bind, pure, Except.pure]
    · cases hreach : CodeCensus.cannotReach options.threshold a.tokens.size b.tokens.size <;>
        simp [hexcluded, bind, Except.bind, pure, Except.pure]

section Scans

variable {checkedRow : Nat → Except Breach (List Hit)} {compareRow : Nat → List Hit} {s : Scan}

end Scans

/-- Where each item has a result, all results are those that there are. -/
theorem mapM_eq_filterMap {α β : Type} {f : α → Except Breach β} {g : α → Option β} {xs : List α}
    (h : ∀ x ∈ xs, ∃ y, f x = .ok y ∧ g x = some y) : xs.mapM f = .ok (xs.filterMap g) := by
  induction xs with
  | nil => rfl
  | cons x xs ih =>
      obtain ⟨y, hf, hg⟩ := h x List.mem_cons_self
      have hxs := ih fun z hz => h z (List.mem_cons_of_mem x hz)
      rw [List.mapM_cons, hf, hxs, List.filterMap_cons, hg]
      rfl

section Pairs

variable (options : SimilarityOptions) (excluded : Candidate → Candidate → Bool) (candidates : List Candidate)

end Pairs

/-! ## Groups and figures -/

/-- The groups of at least two items are made one by one, and there are no others. -/
theorem mapM_filter_eq {α : Type} {entries : List (String × List α)}
    {made : String × List α → Except Breach DuplicateGroup} {group? : String × List α → Option DuplicateGroup}
    (hmade : ∀ hash first second others, ∃ g, made (hash, first :: second :: others) = .ok g ∧
      group? (hash, first :: second :: others) = some g)
    (hnone : ∀ hash, group? (hash, []) = none) (hone : ∀ hash first, group? (hash, [first]) = none) :
    (entries.filter fun e => decide (2 ≤ e.2.length)).mapM made = .ok (entries.filterMap group?) := by
  have hkept : (entries.filter fun e => decide (2 ≤ e.2.length)).filterMap group? = entries.filterMap group? := by
    rw [List.filterMap_filter]
    apply List.filterMap_congr
    rintro ⟨hash, _ | ⟨first, _ | ⟨second, others⟩⟩⟩ _
    · simp [hnone]
    · simp [hone]
    · simp
  rw [← hkept]
  apply mapM_eq_filterMap
  rintro ⟨hash, _ | ⟨first, _ | ⟨second, others⟩⟩⟩ he
  · simp at he
  · simp at he
  · exact hmade hash first second others

theorem exactFileGroups_eq (records : List FileRecord) :
    exactFileGroups records = .ok (CodeCensus.exactFileGroups records) :=
  mapM_filter_eq (fun _ _ _ _ => ⟨_, rfl, rfl⟩) (fun _ => rfl) (fun _ _ => rfl)

theorem exactBlockGroups_eq (records : List FileRecord) :
    exactBlockGroups records = .ok (CodeCensus.exactBlockGroups records) :=
  mapM_filter_eq (fun _ _ _ _ => ⟨_, rfl, rfl⟩) (fun _ => rfl) (fun _ _ => rfl)

end Checked

/-! ## Outcomes -/

/-- The value is a report on the workspace: it says that it succeeded, names the workspace, has the fields of a
    report and no others, and shows a report. -/
structure Value.IsReport (root : Path) (v : Value) : Prop where
  success : v.get? "success" = some (.bool true)
  workspace : v.get? "workspace" = some (.text root.text)
  fields : v.fieldNames = ["success", "workspace", "truncated", "summary", "exactDuplicates",
    "similarDuplicates", "fileAnalysis", "recommendations"].map .text
  readable : ∃ shown, ShownReport.read? v = some shown

theorem Value.IsReport.succeeded {root : Path} {v : Value} (h : v.IsReport root) : succeeded v = true := by
  simp [CodeCensus.succeeded, h.success, Value.truthy]

section Outcomes

variable {limit : Option Nat} {fs : FileSystem} {host : RunHost} {raw : RawSettings}

end Outcomes

end CodeCensus
