import CodeCensus.Duplicate.Group
import CodeCensus.Duplicate.Jaccard

/-!
# Similar files and blocks

Every pair of files, and every pair of blocks from different files, is compared by the Jaccard
coefficient of its token sets. The rows of the pair matrix are dealt to the workers in turn. Before each
row its worker asks whether to stop; a row is compared in full or not at all. Which worker comes next is
not up to the scan. The hits of all workers are put in the order of their positions, so the result does
not depend on who found them.

Contents:
* `Candidate`, `fileCandidates`, `blockCandidates`;
* `SimilarityOptions`, `rowHits` — the hits of one row;
* `dealRows` — the rows of each worker;
* `Scan` — the state of a scan, advanced one check at a time by `Scan.step`, to the end by `Scan.run`;
* `Session`, `scanPairs`, `similarFiles`, `similarBlocks`.
-/

namespace CodeCensus

/-! ## Candidates -/

/-- An item that is compared: a whole file or one of its blocks. -/
structure Candidate where
  fileIndex : Nat
  tokens : Std.HashSet String
  hash : String
  member : Member
  lines : Int

/-- The files with at least `minTokens` different tokens. -/
def fileCandidates (minTokens : Int) (records : List FileRecord) : List Candidate :=
  records.zipIdx.filterMap fun (r, index) =>
    let tokens := Std.HashSet.ofList r.tokens
    if minTokens ≤ tokens.size then
      some ⟨index, tokens, r.contentHash, Member.ofFile r, r.lines⟩
    else none

/-- The blocks with at least `minTokens` different tokens, in file and block order. -/
def blockCandidates (minTokens : Int) (records : List FileRecord) : List Candidate :=
  records.zipIdx.flatMap fun (r, index) =>
    r.blocks.filterMap fun b =>
      let tokens := Std.HashSet.ofList (tokenize b.content)
      if minTokens ≤ tokens.size then
        some ⟨index, tokens, b.hash, Member.ofBlock r b, b.lineCount⟩
      else none

/-- Files with one canonical text are left to the exact groups. -/
def sameContent (a b : Candidate) : Bool := a.hash = b.hash

/-- Blocks of one file are not compared, and blocks with one text are left to the exact groups. -/
def sameFileOrText (a b : Candidate) : Bool := a.fileIndex = b.fileIndex || a.hash = b.hash

/-! ## Comparing one row -/

/-- What counts as similar, and how the work is divided. -/
structure SimilarityOptions where
  threshold : Number
  minTokens : Int
  prune : Bool
  workers : Nat

/-- Two candidates that are similar enough. -/
structure Hit where
  row : Nat
  column : Nat
  similarity : Double

/-- The first position is not after the second. -/
def Hit.notAfter (a b : Hit) : Bool := a.row < b.row || (a.row == b.row && a.column ≤ b.column)

/-- The sizes alone keep the coefficient below the threshold. -/
def cannotReach (threshold : Number) (m n : Nat) : Bool :=
  max m n ≠ 0 && (Number.double (sizeBound m n)).lt threshold

/-- The coefficient of a pair, if the pair is compared and similar enough. -/
def pairSimilarity? (options : SimilarityOptions) (excluded : Candidate → Candidate → Bool)
    (a b : Candidate) : Option Double :=
  if excluded a b then none
  else if options.prune && cannotReach options.threshold a.tokens.size b.tokens.size then none
  else
    let similarity := jaccard a.tokens b.tokens
    if options.threshold.le (.double similarity) then some similarity else none

/-- The hits of a row: its candidate against all later ones. -/
def rowHits (options : SimilarityOptions) (excluded : Candidate → Candidate → Bool)
    (candidates : List Candidate) (row : Nat) : List Hit :=
  match candidates.drop row with
  | [] => []
  | first :: later =>
    later.zipIdx.filterMap fun (second, k) =>
      (pairSimilarity? options excluded first second).map fun s => ⟨row, row + 1 + k, s⟩

/-! ## Scanning all rows -/

/-- The number of workers that get rows: never more than there are rows, and at least one. -/
def partitions (workers rows : Nat) : Nat := max 1 (min workers rows)

/-- The numbers from `start` below `stop`, in steps. -/
def numbersFrom (start stop step : Nat) : List Nat :=
  List.range' start ((stop - start + (step - 1)) / step) step

/-- The rows of each worker, dealt in turn. -/
def dealRows (workers rows : Nat) : List (List Nat) :=
  let n := partitions workers rows
  (List.range n).map fun offset => numbersFrom offset rows n

/-- The state of a scan: the rows that each worker still has, the hits of the rows compared so far, the
    number of checks made, and whether one of them said to stop. -/
structure Scan where
  pending : List (List Nat)
  hits : List (List Hit)
  checks : Nat
  stopped : Bool

namespace Scan

/-- The start of a scan. -/
def start (rows : List (List Nat)) (checks : Nat) : Scan := ⟨rows, [], checks, false⟩

/-- The turn of one worker. With rows left, it checks the signal: on `stop` it gives up its rows, else
    it compares its next row. -/
def step (compareRow : Nat → List Hit) (worker : Nat) (stop : Bool) (s : Scan) : Scan :=
  match s.pending[worker]? with
  | some (row :: rest) =>
    if stop then
      { s with pending := s.pending.set worker [], checks := s.checks + 1, stopped := true }
    else
      { s with
        pending := s.pending.set worker rest
        hits := compareRow row :: s.hits
        checks := s.checks + 1 }
  | _ => s

/-- The workers that still have rows. -/
def busy (s : Scan) : List Nat :=
  (List.range s.pending.length).filter fun worker => s.pending[worker]?.any (!·.isEmpty)

/-- The worker whose turn it is, if any has rows left: `turn n` picks the one that makes check number `n`. -/
def next? (turn : Nat → Nat) (s : Scan) : Option Nat := s.busy[turn s.checks % s.busy.length]?

/-- Takes a number of turns; the answer to check number `n` is `stop n`. -/
def runFor (compareRow : Nat → List Hit) (stop : Nat → Bool) (turn : Nat → Nat) : Nat → Scan → Scan
  | 0, s => s
  | turns + 1, s =>
    match s.next? turn with
    | none => s
    | some worker => runFor compareRow stop turn turns (s.step compareRow worker (stop s.checks))

/-- The number of rows that no worker has come to yet. -/
def rowsLeft (s : Scan) : Nat := s.pending.flatten.length

/-- Takes turns until no worker has rows left. Each turn takes at least one row off. -/
def run (compareRow : Nat → List Hit) (stop : Nat → Bool) (turn : Nat → Nat) (s : Scan) : Scan :=
  runFor compareRow stop turn s.rowsLeft s

/-- All hits, in the order of their positions. -/
def sortedHits (s : Scan) : List Hit := s.hits.flatten.mergeSort Hit.notAfter

end Scan

/-! ## Sessions -/

/-- What a run remembers between its scans: the checks made, and whether some scan was cut short. -/
structure Session where
  checks : Nat
  truncated : Bool
  deriving DecidableEq, Repr

/-- The outcome of a scan: its groups, the session after it, and whether it stopped in the middle. -/
structure ScanOutcome where
  groups : List DuplicateGroup
  session : Session
  stoppedEarly : Bool

/-- The group of a hit. -/
def hitGroup? (kind : DuplicateKind) (candidates : List Candidate) (h : Hit) :
    Option DuplicateGroup := do
  let a ← candidates[h.row]?
  let b ← candidates[h.column]?
  return ⟨kind, a.member, b.member, [], .float h.similarity, min a.lines b.lines, none, none⟩

/-- Compares all pairs of candidates. A first check comes before any work; a scan that it stops has no
    groups. The answers to the checks and the turns of the workers come from outside. -/
def scanPairs (options : SimilarityOptions) (kind : DuplicateKind)
    (excluded : Candidate → Candidate → Bool) (candidates : List Candidate) (stop : Nat → Bool)
    (session : Session) (turn : Nat → Nat) : ScanOutcome :=
  let checked := session.checks + 1
  if stop session.checks then ⟨[], ⟨checked, true⟩, false⟩
  else if candidates.length < 2 then ⟨[], ⟨checked, session.truncated⟩, false⟩
  else
    let rows := dealRows options.workers (candidates.length - 1)
    let scan := (Scan.start rows checked).run (rowHits options excluded candidates) stop turn
    ⟨scan.sortedHits.filterMap (hitGroup? kind candidates),
      ⟨scan.checks, session.truncated || scan.stopped⟩, scan.stopped⟩

/-- Compares every pair of files that are not exact duplicates. Unless told otherwise, the first worker
    with rows left takes the turn. -/
def similarFiles (options : SimilarityOptions) (records : List FileRecord) (stop : Nat → Bool)
    (session : Session) (turn : Nat → Nat := fun _ => 0) : ScanOutcome :=
  scanPairs options .similarFile sameContent (fileCandidates options.minTokens records) stop session
    turn

/-- Compares every pair of blocks from different files, with turns as for files. -/
def similarBlocks (options : SimilarityOptions) (records : List FileRecord) (stop : Nat → Bool)
    (session : Session) (turn : Nat → Nat := fun _ => 0) : ScanOutcome :=
  scanPairs options .similarBlock sameFileOrText (blockCandidates options.minTokens records) stop
    session turn

end CodeCensus
