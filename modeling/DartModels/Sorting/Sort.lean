import DartModels.Sorting.Merge

namespace DartModels.Sorting

/-- A sorted run among the values, and how deep the place between it and the next run
    lies when the values are halved again and again. -/
structure Pending (α : Type) where
  start : Nat
  values : List α
  depth : Nat

namespace Pending

variable {ε α : Type}

/-- Where the values of a run end. -/
def stop (run : Pending α) : Nat :=
  run.start + run.values.length

/-- How often so many values have to be halved until a cut falls between the middle of
    one run and that of the run behind it. Both middles are given in half steps. -/
def depthBetween (count : Nat) : (limit : Nat) → (first second : Nat) → Nat
  | 0, _, _ => 0
  | limit + 1, first, second =>
    if count ≤ first then
      1 + depthBetween count limit (2 * (first - count)) (2 * (second - count))
    else if count ≤ second then 1
    else 1 + depthBetween count limit (2 * first) (2 * second)

/-- How deep the place between two runs lies among so many values. -/
def cutDepth (count : Nat) (first second : Pending α) : Nat :=
  depthBetween count (2 * count + 2) (first.start + first.stop) (second.start + second.stop)

variable (before : α → α → Except ε Bool)

/-- Merges two runs next to each other. -/
def merged (patience : Nat) (first second : Pending α) : Except ε (Pending α × Nat) := do
  let (values, patience) ← mergeRuns before patience first.values second.values
  return ({ first with values }, patience)

/-- Merges the last runs as long as the place between them lies deeper than a new
    one. -/
def mergeDeeper (depth : Nat) : (limit : Nat) → List (Pending α) × Nat →
    Except ε (List (Pending α) × Nat)
  | limit + 1, (second :: first :: rest, patience) =>
    if depth < first.depth then do
      let (run, patience) ← merged before patience first second
      mergeDeeper depth limit (run :: rest, patience)
    else .ok (second :: first :: rest, patience)
  | _, state => .ok state

/-- Adds a run behind those that are waiting, the last of which comes first. -/
def push (count : Nat) (state : List (Pending α) × Nat) (values : List α) :
    Except ε (List (Pending α) × Nat) := do
  match state.1 with
  | [] => return ([{ start := 0, values, depth := 0 }], state.2)
  | last :: _ =>
    let run : Pending α := { start := last.stop, values, depth := 0 }
    let depth := cutDepth count last run
    match ← mergeDeeper before depth state.1.length state with
    | (last :: rest, patience) => return (run :: { last with depth } :: rest, patience)
    | ([], patience) => return ([run], patience)

/-- Merges all runs that are waiting, the last ones first. A run in front that is
    shorter than the last one is merged before it. -/
def collapse : (limit : Nat) → List (Pending α) × Nat → Except ε (List α)
  | limit + 1, (third :: second :: first :: rest, patience) => do
    if first.values.length < third.values.length then
      let (run, patience) ← merged before patience first second
      collapse limit (third :: run :: rest, patience)
    else
      let (run, patience) ← merged before patience second third
      collapse limit (run :: first :: rest, patience)
  | _, ([second, first], patience) => do
    let (run, _) ← merged before patience first second
    return run.values
  | _, (runs, _) => .ok (runs.reverse.flatMap Pending.values)

end Pending

/-- Sorts values. Those of which neither comes before the other keep their order. Runs
    that are sorted already are taken as they are, or turned around if they fall, and
    merged in pairs of about the same length. Where some values have no order, these are
    the comparisons that are made. -/
def sort {ε α : Type} (before : α → α → Except ε Bool) (values : List α) :
    Except ε (List α) := do
  let runs ← runs before (leastRun values.length) values.length values
  let waiting ← runs.foldlM (Pending.push before values.length) ([], worthwhile)
  Pending.collapse before runs.length waiting

end DartModels.Sorting
