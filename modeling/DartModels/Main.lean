import DartModels.CommandLine.Run

namespace DartModels

/-- Why the system does not open a file. -/
def openFault (error : IO.Error) : OpenFault :=
  match error with
  | .permissionDenied .. => .forbidden
  | .inappropriateType _ code _ | .invalidArgument _ code _ | .otherError code _ =>
    if code = 20 then .notDirectory
    else if code = 21 then .isDirectory
    else if code = 36 then .nameTooLong
    else .missing
  | _ => .missing

/-- What a path leads to. -/
def lookAt (path : String) : IO Opened := do
  try
    return .ok (← IO.FS.readBinFile path)
  catch error =>
    return .error (openFault error)

/-- A random id that tells runs apart. -/
def newCorrelation : IO String := do
  let bytes ← IO.getRandomBytes 16
  let digits := bytes.toList.flatMap fun byte => Text.hexDigits 2 byte.toNat
  let part (start length : Nat) : String := String.ofList ((digits.drop start).take length)
  return Text.joined "-" [part 0 8, part 8 4, part 12 4, part 16 4, part 20 12]

/-- Does what an effect says. -/
def perform : CommandLine.Effect → IO Unit
  | .out text => IO.print text
  | .err text => IO.eprint text
  | .save path content => IO.FS.writeFile path content

end DartModels

open DartModels in
/-- Generates the classes for a snapshot of a database, or lists its types or
    tables. -/
def main (words : List String) : IO UInt32 := do
  let paths :=
    match CommandLine.Invocation.ofWords words with
    | .ok invocation => invocation.paths
    | .error _ => []
  let places ← paths.mapM fun path => do return (path, ← lookAt path)
  let folder (path : String) : Opened := (places.lookup path).getD (.error .missing)
  let run := CommandLine.run folder (← newCorrelation) words
  run.trace.forM perform
  if let .error (.fault fault) := run.outcome then IO.eprintln ("Error: " ++ fault.message)
  return (CommandLine.exitCode run.outcome).toUInt32
