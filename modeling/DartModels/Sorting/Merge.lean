import DartModels.Sorting.Run

namespace DartModels.Sorting

/-- Where a run is gone through from. -/
inductive Direction where
  | fromStart
  | fromEnd
deriving DecidableEq, Repr

/-- Values in the order in which they are gone through. -/
def Direction.arrange {α : Type} (direction : Direction) (values : List α) : List α :=
  match direction with
  | .fromStart => values
  | .fromEnd => values.reverse

/-- The middle of a gap, rounded towards the start of the run. -/
def Direction.middle (direction : Direction) (low high : Nat) : Nat :=
  match direction with
  | .fromStart => low + (high - low) / 2
  | .fromEnd => high - 1 - (high - low) / 2

theorem Direction.middle_bounds (direction : Direction) {low high : Nat} (h : low < high) :
    low ≤ direction.middle low high ∧ direction.middle low high < high := by
  cases direction <;> simp only [Direction.middle] <;> omega

/-- How many values in a row count, of which so many do and the one at `high` does
    not, by halving the gap. -/
def narrow {ε : Type} (direction : Direction) (counts : Nat → Except ε Bool) (low high : Nat) :
    Except ε Nat :=
  if h : low < high then do
    have bounds := direction.middle_bounds h
    if ← counts (direction.middle low high) then
      narrow direction counts (direction.middle low high + 1) high
    else narrow direction counts low (direction.middle low high)
  else .ok low
termination_by high - low

/-- How many values in a row count, at the start of so many, of which that at `last`
    does. The steps double until one does not, and then the gap is halved. -/
def stretch {ε : Type} (direction : Direction) (counts : Nat → Except ε Bool) (size : Nat) :
    (limit : Nat) → (last step : Nat) → Except ε Nat
  | 0, last, _ => .ok (last + 1)
  | limit + 1, last, step => do
    if size ≤ step then narrow direction counts (last + 1) size
    else if ← counts step then stretch direction counts size limit step (2 * step + 1)
    else narrow direction counts (last + 1) step

/-- How many values at the start count. -/
def countLeading {ε α : Type} (direction : Direction) (counts : α → Except ε Bool)
    (values : List α) : Except ε Nat := do
  let countsAt (position : Nat) : Except ε Bool :=
    match values[position]? with
    | some value => counts value
    | none => .ok false
  if ← countsAt 0 then stretch direction countsAt values.length values.length 0 1 else return 0

/-- Two runs that are being merged. -/
structure Merging (α : Type) where
  /-- The values of the run that was shorter. -/
  short : List α
  /-- The values of the run that was longer. -/
  long : List α
  /-- The values that are merged, the last one first. -/
  merged : List α
  /-- How many values in a row have to come from one run before values are taken in
      stretches. -/
  patience : Nat

namespace Merging

variable {ε α : Type}

/-- Whether all comparisons are made: the longer run is used up, or one value at most
    is left of the shorter one, which goes last. -/
def isOver (merging : Merging α) : Bool :=
  merging.long.isEmpty || merging.short.length ≤ 1

/-- All values once the comparisons are made. -/
def result (merging : Merging α) : List α :=
  merging.merged.reverse ++ merging.long ++ merging.short

/-- Takes values of the shorter run. -/
def takeShort (merging : Merging α) (count : Nat) : Merging α :=
  { merging with
    short := merging.short.drop count
    merged := (merging.short.take count).reverse ++ merging.merged }

/-- Takes values of the longer run. -/
def takeLong (merging : Merging α) (count : Nat) : Merging α :=
  { merging with
    long := merging.long.drop count
    merged := (merging.long.take count).reverse ++ merging.merged }

variable (direction : Direction) (wins : α → α → Except ε Bool)

/-- Takes the values of the shorter run that go in front of the longer one, and then
    one of the longer run. -/
def stretchOfShort (merging : Merging α) : Except ε (Merging α × Nat) := do
  match merging.long with
  | [] => return (merging, 0)
  | first :: _ =>
    let count ← countLeading direction (fun value => do return !(← wins first value)) merging.short
    let taken := merging.takeShort count
    return (if taken.isOver then taken else taken.takeLong 1, count)

/-- Takes the values of the longer run that go in front of the shorter one, and then
    one of the shorter run. -/
def stretchOfLong (merging : Merging α) : Except ε (Merging α × Nat) := do
  match merging.short with
  | [] => return (merging, 0)
  | first :: _ =>
    let count ← countLeading direction (fun value => wins value first) merging.long
    let taken := merging.takeLong count
    return (if taken.isOver then taken else taken.takeShort 1, count)

/-- Takes a stretch of each run, and tells how long the longer of them is. -/
def stretches (merging : Merging α) : Except ε (Merging α × Nat) := do
  let (first, second) :=
    match direction with
    | .fromStart => (stretchOfShort direction wins, stretchOfLong direction wins)
    | .fromEnd => (stretchOfLong direction wins, stretchOfShort direction wins)
  let (merging, count) ← first { merging with patience := max 1 (merging.patience - 1) }
  if merging.isOver then return (merging, count)
  let (merging, other) ← second merging
  return (merging, max count other)

end Merging

/-- How values are taken from two runs. -/
inductive Pace where
  /-- One by one, of which so many last came from the shorter or the longer run. -/
  | single (short long : Nat)
  /-- In stretches. -/
  | stretched

/-- How many values in a row make a stretch worth its search. -/
def worthwhile : Nat := 7

/-- Merges two runs. Values are taken one by one until one run wins often enough, and
    then in stretches as long as those are worthwhile. Each step takes a value. -/
def merge {ε α : Type} (direction : Direction) (wins : α → α → Except ε Bool) :
    (limit : Nat) → Pace → Merging α → Except ε (Merging α)
  | 0, _, merging => .ok merging
  | limit + 1, .single short long, merging =>
    if merging.isOver then .ok merging
    else
      match merging.short, merging.long with
      | ours :: _, theirs :: _ => do
        let isLong ← wins theirs ours
        let next := if isLong then merging.takeLong 1 else merging.takeShort 1
        let inRow := if isLong then long + 1 else short + 1
        if next.isOver then return next
        else if inRow < merging.patience then
          let pace := if isLong then Pace.single 0 inRow else Pace.single inRow 0
          merge direction wins limit pace next
        else merge direction wins limit .stretched { next with patience := next.patience + 1 }
      | _, _ => .ok merging
  | limit + 1, .stretched, merging => do
    let (next, count) ← merging.stretches direction wins
    if next.isOver then return next
    else if worthwhile ≤ count then merge direction wins limit .stretched next
    else merge direction wins limit (.single 0 0) { next with patience := next.patience + 1 }

/-- Merges two sorted runs into one. Values of the first run that come in front of the
    second one are in their places, and so are values of the second run behind the first
    one; of the others, the longer run is merged into the shorter one. -/
def mergeRuns {ε α : Type} (before : α → α → Except ε Bool) (patience : Nat)
    (first second : List α) : Except ε (List α × Nat) := do
  match second with
  | [] => return (first, patience)
  | lowest :: _ =>
    let inPlace ← countLeading .fromStart (fun value => do return !(← before lowest value)) first
    let start := first.take inPlace
    let first := first.drop inPlace
    match first.getLast? with
    | none => return (start ++ second, patience)
    | some highest =>
      let inPlace ←
        countLeading .fromEnd (fun value => do return !(← before value highest)) second.reverse
      let count := second.length - inPlace
      let behind := second.drop count
      let second := second.take count
      if second.isEmpty then return (start ++ first ++ behind, patience)
      let limit := 2 * (first.length + second.length) + 2
      let (direction, wins, short, long) :=
        if first.length ≤ second.length then
          (Direction.fromStart, before, first, second)
        else (Direction.fromEnd, fun theirs ours => before ours theirs, second, first)
      let merging : Merging α :=
        { short := direction.arrange short, long := direction.arrange long, merged := [], patience }
      let merged ← merge direction wins limit (.single 0 0) (merging.takeLong 1)
      return (start ++ direction.arrange merged.result ++ behind, merged.patience)

end DartModels.Sorting
