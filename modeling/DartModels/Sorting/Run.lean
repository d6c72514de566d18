namespace DartModels.Sorting

variable {ε α : Type} (before : α → α → Except ε Bool)

/-- The values at the start that go on as a run behind `last`: each comes before
    the one in front of it if the run falls, and none of them does otherwise. Behind
    the run comes what is left. -/
def takeRun (falls : Bool) (last : α) : List α → Except ε (List α × List α)
  | [] => .ok ([], [])
  | value :: rest => do
    if (← before value last) = falls then
      let (run, rest) ← takeRun falls value rest
      return (value :: run, rest)
    else return ([], value :: rest)

/-- The run at the start, turned around if it falls, and what is left behind it. -/
def firstRun : List α → Except ε (List α × List α)
  | first :: second :: rest => do
    let falls ← before second first
    let (run, rest) ← takeRun before falls second rest
    let run := first :: second :: run
    return (if falls then run.reverse else run, rest)
  | values => .ok (values, [])

/-- The place of a value among sorted ones, between two bounds that are halved: in
    front of the values that it comes before, and behind all others. -/
def place (sorted : List α) (value : α) (low high : Nat) : Except ε Nat :=
  if _ : low < high then
    let middle := (low + high) / 2
    match sorted[middle]? with
    | none => .ok low
    | some other => do
      if ← before value other then place sorted value low middle
      else place sorted value (middle + 1) high
  else .ok low
termination_by high - low

/-- Puts a value in its place. -/
def insert (sorted : List α) (value : α) : Except ε (List α) := do
  let position ← place before sorted value 0 sorted.length
  return sorted.take position ++ value :: sorted.drop position

/-- The least length of a run among so many values. From 64 values on they are halved,
    rounding up, until fewer are left. -/
def leastRun (count : Nat) : Nat :=
  halved count count false
where
  /-- Halves a number as often as it takes, and adds one if there was a rest. -/
  halved : (limit : Nat) → Nat → Bool → Nat
    | 0, count, hasRest => count + hasRest.toNat
    | limit + 1, count, hasRest =>
      if count < 64 then count + hasRest.toNat
      else halved limit (count / 2) (hasRest || count % 2 = 1)

/-- Splits values into sorted runs. A run that is too short takes the values behind
    it, each in its place. -/
def runs (least : Nat) : (limit : Nat) → List α → Except ε (List (List α))
  | 0, _ | _, [] => .ok []
  | limit + 1, values => do
    let (run, rest) ← firstRun before values
    let missing := least - run.length
    let run ← (rest.take missing).foldlM (insert before) run
    return run :: (← runs least limit (rest.drop missing))

end DartModels.Sorting
