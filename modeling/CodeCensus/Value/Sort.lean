import CodeCensus.Value.Basic

/-!
# Sorting values

Values of one kind have an order, numbers and truth values together; values of different kinds have none.
Sorting cuts the items into runs that rise, and merges neighbouring runs. Items that are not told apart
keep their order. With a NaN among the keys the result depends on which comparisons are made, and with
keys of different kinds so does the fault that is reported. So the comparisons are part of the rule.

Contents:
* `OrderFault`, `Value.less`;
* `halve`, `gallop` — the two ways to search a run;
* `frontRun`, `insertByHalving` — making runs;
* `Merging`, `mergeRuns` — merging two of them;
* `sortByRuns`.
-/

namespace CodeCensus

/-! ## The order of values -/

/-- Why two values have no order. -/
inductive OrderFault where
  | kinds (left right : String)
  | momentAndDate
  | mixedClocks
  deriving DecidableEq, Repr

/-- The wording of a fault. -/
def OrderFault.message : OrderFault → String
  | kinds left right =>
    "'<' not supported between instances of '" ++ left ++ "' and '" ++ right ++ "'"
  | momentAndDate => "can't compare datetime.datetime to datetime.date"
  | mixedClocks => "can't compare offset-naive and offset-aware datetimes"

/-- One moment is before another; both have an offset or neither has. -/
def Moment.before (a b : Moment) : Except OrderFault Bool :=
  match a.offset, b.offset with
  | none, none => .ok (a.clockMicroseconds < b.clockMicroseconds)
  | some x, some y =>
    .ok (a.clockMicroseconds - 1000000 * x < b.clockMicroseconds - 1000000 * y)
  | _, _ => .error .mixedClocks

/-- One value is less than another. -/
def Value.less (a b : Value) : Except OrderFault Bool :=
  match a, b with
  | .text s, .text t => .ok (s < t)
  | .date d, .date e => .ok (d.dayNumber < e.dayNumber)
  | .moment m, .moment n => m.before n
  | .date _, .moment _ | .moment _, .date _ => .error .momentAndDate
  | _, _ =>
    match a.asNumber?, b.asNumber? with
    | some x, some y => .ok (Value.precedes x y)
    | _, _ => .error (.kinds a.fullTypeName b.fullTypeName)

variable {α ε : Type}

/-! ## Searching -/

/-- Where a test stops holding between `low` and `high`, found by halving. -/
def halve (test : Nat → Except ε Bool) (low high : Nat) : Except ε Nat :=
  if low < high then do
    let middle := low + (high - low) / 2
    if ← test middle then halve test (middle + 1) high else halve test low middle
  else .ok low
termination_by high - low
decreasing_by all_goals omega

/-- Takes growing steps while a test holds at them: the last step at which it held, and the one that ended
    the walk, at most `limit`. -/
def stride (test : Nat → Except ε Bool) (limit last step : Nat) : Except ε (Nat × Nat) :=
  if step < limit then do
    if ← test step then stride test limit step (2 * step + 1) else return (last, step)
  else .ok (last, limit)
termination_by limit - step
decreasing_by all_goals omega

/-- Where a test stops holding among `count` positions, searched from `hint` on in growing steps. -/
def gallop (test : Nat → Except ε Bool) (count hint : Nat) : Except ε Nat := do
  if ← test hint then
    let (last, step) ← stride (fun s => test (hint + s)) (count - hint) 0 1
    halve test (hint + last + 1) (hint + step)
  else
    let (last, step) ← stride (fun s => (test (hint - s)).map (!·)) (hint + 1) 0 1
    halve test (hint + 1 - step) (hint - last)

/-- A test of the item at a position. -/
def testAt (items : Array α) (test : α → Except ε Bool) (i : Nat) : Except ε Bool :=
  match items[i]? with
  | some x => test x
  | none => .ok false

/-! ## Runs -/

/-- The items that go on a rising run after `last`, and the rest. -/
def risingRun (less : α → α → Except ε Bool) (last : α) : List α → Except ε (List α × List α)
  | [] => .ok ([], [])
  | x :: rest => do
    if ← less x last then return ([], x :: rest)
    let (run, others) ← risingRun less x rest
    return (x :: run, others)

/-- The items that go on a falling run after `last`, and the rest. -/
def fallingRun (less : α → α → Except ε Bool) (last : α) : List α → Except ε (List α × List α)
  | [] => .ok ([], [])
  | x :: rest => do
    if ← less x last then
      let (run, others) ← fallingRun less x rest
      return (x :: run, others)
    return ([], x :: rest)

/-- The run at the front in rising order, and the rest. -/
def frontRun (less : α → α → Except ε Bool) : List α → Except ε (List α × List α)
  | x :: y :: rest => do
    if ← less y x then
      let (run, others) ← fallingRun less y rest
      return ((x :: y :: run).reverse, others)
    let (run, others) ← risingRun less y rest
    return (x :: y :: run, others)
  | items => .ok (items, [])

/-- Puts items into a run one after another, each after those that it is not less than. -/
def insertByHalving (less : α → α → Except ε Bool) (run : List α) : List α → Except ε (List α)
  | [] => .ok run
  | x :: rest => do
    let place ← halve (testAt run.toArray fun y => (less x y).map (!·)) 0 run.length
    insertByHalving less (run.take place ++ x :: run.drop place) rest

/-- The least length of a run among `count` items: a number up to 64 such that the number of runs is about
    a power of two. -/
def leastRun (carry count : Nat) : Nat :=
  if count < 64 then count + carry else leastRun (max carry (count % 2)) (count / 2)
termination_by count
decreasing_by omega

/-! ## Merging -/

/-- One of the two runs of a merge: the shorter one or the longer one. -/
inductive MergeSide where
  | near
  | far
  deriving DecidableEq, Repr

/-- The side across. -/
def MergeSide.other : MergeSide → MergeSide
  | near => far
  | far => near

/-- A merge under way: what is done, the latest first, and what is left of the two runs, the next first. -/
structure Merging (α : Type) where
  done : List α
  near : List α
  far : List α

namespace Merging

/-- Takes items from one side. -/
def take (m : Merging α) (side : MergeSide) (count : Nat) : Merging α :=
  match side with
  | .near => ⟨(m.near.take count).reverse ++ m.done, m.near.drop count, m.far⟩
  | .far => ⟨(m.far.take count).reverse ++ m.done, m.near, m.far.drop count⟩

/-- The merged items, once there is nothing to compare: a side is empty, or the near one has only the item
    that goes last. -/
def result? (m : Merging α) : Option (List α) :=
  match m.near, m.far with
  | near, [] => some (m.done.reverse ++ near)
  | [], far => some (m.done.reverse ++ far)
  | [x], far => some (m.done.reverse ++ far ++ [x])
  | _, _ => none

end Merging

/-- The direction of a merge. -/
structure MergeWay (α ε : Type) where
  /-- The next far item goes before the next near one. -/
  farFirst : α → α → Except ε Bool
  /-- How many items of a side go before the next item across. -/
  ahead : MergeSide → α → List α → Except ε Nat
  /-- The side that leads in a round of galloping. -/
  leader : MergeSide

/-- Merging from the front, where the near run is the first one. -/
def MergeWay.forward (less : α → α → Except ε Bool) : MergeWay α ε where
  farFirst := fun far near => less far near
  ahead := fun side across items =>
    match side with
    | .near => gallop (testAt items.toArray fun x => (less across x).map (!·)) items.length 0
    | .far => gallop (testAt items.toArray fun x => less x across) items.length 0
  leader := .near

/-- Merging from the back, where the near run is the second one; the runs are given from their ends. -/
def MergeWay.backward (less : α → α → Except ε Bool) : MergeWay α ε where
  farFirst := fun far near => less near far
  ahead := fun side across items =>
    let inOrder := items.reverse.toArray
    let test := match side with
      | .near => fun x => less x across
      | .far => fun x => (less across x).map (!·)
    (gallop (testAt inOrder test) items.length (items.length - 1)).map (items.length - ·)
  leader := .far

/-- Goes on with a merge unless it is at its end; `patience` is how often one side has to win in a row before
    galloping. -/
def Merging.orElse (m : Merging α) (patience : Nat)
    (go : Merging α → Except ε (Nat × List α)) : Except ε (Nat × List α) :=
  match m.result? with
  | some items => .ok (patience, items)
  | none => go m

/-- The number of items that a side is ahead of the next item across. -/
def MergeWay.lead (way : MergeWay α ε) (side : MergeSide) (m : Merging α) : Except ε Nat :=
  match side, m.near, m.far with
  | .near, near, x :: _ => way.ahead .near x near
  | .far, x :: _, far => way.ahead .far x far
  | _, _, _ => .ok 0

/-- Merges to the end; the result comes with the patience for the next merge. Items are compared pair by
    pair, or, when `galloping`, taken as many at a time as a side is ahead. The last `streak` items came
    from the `winner`. -/
def mergeOn (way : MergeWay α ε) : (fuel patience : Nat) → (galloping : Bool) →
    (winner : MergeSide) → (streak : Nat) → Merging α → Except ε (Nat × List α)
  | 0, patience, _, _, _, m => .ok (patience, m.done.reverse ++ m.near ++ m.far)
  | fuel + 1, patience, false, winner, streak, m =>
    match m.near, m.far with
    | near :: _, far :: _ => do
      let side := if ← way.farFirst far near then MergeSide.far else .near
      let streak := if side = winner then streak + 1 else 1
      (m.take side 1).orElse patience fun m =>
        if patience ≤ streak then mergeOn way fuel (patience + 1) true side 0 m
        else mergeOn way fuel patience false side streak m
    | _, _ => .ok (patience, m.done.reverse ++ m.near ++ m.far)
  | fuel + 1, patience, true, winner, _, m => do
    let patience := max 1 (patience - 1)
    let first := way.leader
    let second := first.other
    let k ← way.lead first m
    (m.take first k).orElse patience fun m => (m.take second 1).orElse patience fun m => do
      let j ← way.lead second m
      (m.take second j).orElse patience fun m => (m.take first 1).orElse patience fun m =>
        if 7 ≤ k ∨ 7 ≤ j then mergeOn way fuel patience true winner 0 m
        else mergeOn way fuel (patience + 1) false winner 0 m

/-- Merges in a direction; the first item comes from the far side. -/
def mergeAlong (way : MergeWay α ε) (patience : Nat) (near far : List α) :
    Except ε (Nat × List α) :=
  ((Merging.mk [] near far).take .far 1).orElse patience
    (mergeOn way (near.length + far.length) patience false .near 0)

/-- Merges two neighbouring runs. Items at either end that are in place already stay out of the merge, which
    starts at the end of the longer run. -/
def mergeRuns (less : α → α → Except ε Bool) (patience : Nat) (first second : List α) :
    Except ε (Nat × List α) :=
  match second with
  | [] => .ok (patience, first)
  | next :: _ => do
    let k ← gallop (testAt first.toArray fun x => (less next x).map (!·)) first.length 0
    let a := first.drop k
    match a.getLast? with
    | none => return (patience, first ++ second)
    | some last =>
      let n ← gallop (testAt second.toArray fun x => less x last) second.length (second.length - 1)
      let b := second.take n
      if b.isEmpty then return (patience, first ++ second)
      let (patience, merged) ←
        if a.length ≤ b.length then mergeAlong (.forward less) patience a b
        else (mergeAlong (.backward less) patience b.reverse a.reverse).map fun r => (r.1, r.2.reverse)
      return (patience, first.take k ++ merged ++ second.drop n)

/-! ## Sorting -/

/-- A run that waits to be merged: where it starts, its items, and the power of its border with the next
    run. -/
structure PendingRun (α : Type) where
  start : Nat
  items : List α
  power : Nat

/-- The first binary place at which the fractions `a / n` and `b / n` differ; `place` places are the same. -/
def borderPower : (fuel place n a b : Nat) → Nat
  | 0, place, _, _, _ => place
  | fuel + 1, place, n, a, b =>
    if n ≤ a then borderPower fuel (place + 1) n (2 * (a - n)) (2 * (b - n))
    else if n ≤ b then place + 1
    else borderPower fuel (place + 1) n (2 * a) (2 * b)

/-- The power of the border between a run and the next one: the place at which their middles part. -/
def PendingRun.powerBefore (r : PendingRun α) (next total : Nat) : Nat :=
  let a := 2 * r.start + r.items.length
  borderPower (2 * total + 2) 0 total a (a + r.items.length + next)

/-- Merges the latest runs as long as the border in front of the latest has a greater power. -/
def mergeAbove (less : α → α → Except ε Bool) (power : Nat) :
    (patience : Nat) → List (PendingRun α) → Except ε (Nat × List (PendingRun α))
  | patience, top :: below :: rest =>
    if power < below.power then do
      let (patience, items) ← mergeRuns less patience below.items top.items
      mergeAbove less power patience (⟨below.start, items, below.power⟩ :: rest)
    else .ok (patience, top :: below :: rest)
  | patience, runs => .ok (patience, runs)
termination_by _ runs => runs.length
decreasing_by simp only [List.length_cons]; omega

/-- Adds a run to those that wait, the latest first. -/
def pushRun (less : α → α → Except ε Bool) (total patience start : Nat) (run : List α)
    (runs : List (PendingRun α)) : Except ε (Nat × List (PendingRun α)) :=
  match runs with
  | [] => .ok (patience, [⟨start, run, 0⟩])
  | latest :: _ => do
    let power := latest.powerBefore run.length total
    let (patience, runs) ← mergeAbove less power patience runs
    match runs with
    | top :: rest => return (patience, ⟨start, run, 0⟩ :: { top with power } :: rest)
    | [] => return (patience, [⟨start, run, 0⟩])

/-- Cuts items into runs of at least `least` items, as far as there are that many. -/
def collectRuns (less : α → α → Except ε Bool) (total least : Nat) :
    (fuel patience start : Nat) → List (PendingRun α) → List α →
    Except ε (Nat × List (PendingRun α))
  | 0, patience, _, runs, _ => .ok (patience, runs)
  | fuel + 1, patience, start, runs, items =>
    if items.isEmpty then .ok (patience, runs)
    else do
      let (run, rest) ← frontRun less items
      let missing := least - run.length
      let run ← insertByHalving less run (rest.take missing)
      let (patience, runs) ← pushRun less total patience start run runs
      collectRuns less total least fuel patience (start + run.length) runs (rest.drop missing)

/-- Merges all runs into one; of three the two outer ones are compared, and the middle one goes with the
    shorter of them. -/
def mergeAll (less : α → α → Except ε Bool) :
    (fuel patience : Nat) → List (PendingRun α) → Except ε (List α)
  | _, _, [] => .ok []
  | _, _, [run] => .ok run.items
  | 0, _, runs => .ok (runs.reverse.flatMap (·.items))
  | fuel + 1, patience, top :: middle :: bottom :: rest =>
    if bottom.items.length < top.items.length then do
      let (patience, items) ← mergeRuns less patience bottom.items middle.items
      mergeAll less fuel patience (top :: ⟨bottom.start, items, bottom.power⟩ :: rest)
    else do
      let (patience, items) ← mergeRuns less patience middle.items top.items
      mergeAll less fuel patience (⟨middle.start, items, middle.power⟩ :: bottom :: rest)
  | _ + 1, patience, [top, middle] => do
    let (_, items) ← mergeRuns less patience middle.items top.items
    return items

/-- The items sorted. -/
def sortByRuns (less : α → α → Except ε Bool) (items : List α) : Except ε (List α) := do
  let total := items.length
  let (patience, runs) ← collectRuns less total (leastRun 0 total) total 7 0 [] items
  mergeAll less runs.length patience runs

end CodeCensus
