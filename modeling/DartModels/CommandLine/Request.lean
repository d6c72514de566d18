import DartModels.Catalog.File
import DartModels.CommandLine.Given
import DartModels.Report.Basic

namespace DartModels.CommandLine

/-- What the words of a command line ask for: help, or a command with what is given
    for it. -/
inductive Invocation where
  | help (command : Option Command)
  | perform (command : Command) (given : Given)

/-- Reads the words behind a command. -/
def Command.invocation (command : Command) (words : List String) : Except UsageError Invocation :=
  match readWords command.switches true words with
  | .error fault => .error ⟨some command, fault⟩
  | .ok given => .ok (if given.has .help then .help (some command) else .perform command given)

/-- Answers words that should start with the name of a command and do not. The
    words may be switches behind two dashes; these are read as such. -/
def Invocation.ofUnknown (name : String) (rest : List String) : Except UsageError Invocation :=
  match readWords [.help] false (name :: rest) with
  | .error fault => .error ⟨none, fault⟩
  | .ok given =>
    if given.has .help then .ok (.help none)
    else
      .error ⟨none, .commandUnknown name (Text.similarTo name (Command.all.map Command.name))⟩

/-- Reads a whole command line. -/
def Invocation.ofWords (words : List String) : Except UsageError Invocation :=
  match readWords [.help] false words with
  | .error fault => .error ⟨none, fault⟩
  | .ok given =>
    if given.has .help then .ok (.help none)
    else
      match given.operands with
      | [] => .error ⟨none, .commandMissing⟩
      | name :: rest =>
        match Command.ofName? name with
        | none => Invocation.ofUnknown name rest
        | some command => command.invocation rest

/-- What each path leads to. -/
abbrev Folder := String → Opened

/-- How the classes for a snapshot are to be written. -/
structure Generation where
  /-- The file that takes the classes; none is for the output of the program. -/
  output : Option String := none
  schemas : List String := []
  locales : List String := []
  functions : List String := []
  /-- The form of the report on the diagnostics; none is for no report. -/
  report : Option Report.Format := some .console
  isVerbose : Bool := false

/-- What is to be done with a snapshot. -/
inductive Task where
  | generate (generation : Generation)
  | types (locales : List String) (asJson : Bool)
  | tables

/-- A task that can be started, and the path of its snapshot. -/
structure Request where
  metadata : String
  task : Task

/-- Why no request comes of what is given. -/
inductive Rejection where
  | usage (fault : UsageFault)
  | fault (fault : Fault)

/-- Refuses a value. -/
def refuseValue (parameter : Parameter) (refusal : Refusal) : Except Rejection Unit :=
  .error (.usage (.refused parameter refusal))

/-- Accepts the path of a file that has to be there and can be read. -/
def acceptMetadata (folder : Folder) (path : String) : Except Rejection Unit :=
  if !Snapshot.isPath path then .error (.fault .notPath)
  else
    match folder path with
    | .ok _ => .ok ()
    | .error .isDirectory => refuseValue .metadata (.directory path)
    | .error .forbidden => refuseValue .metadata (.unreadable path)
    | .error _ => refuseValue .metadata (.absent path)

/-- Accepts the path of a file that need not be there yet. -/
def acceptOutput (folder : Folder) (path : String) : Except Rejection Unit :=
  if !Snapshot.isPath path then .error (.fault .notPath)
  else
    match folder path with
    | .error .isDirectory => refuseValue .output (.directory path)
    | .error .forbidden => refuseValue .output (.unreadable path)
    | _ => .ok ()

/-- The names that a report can be asked for by. -/
def reportNames : List String := ["console", "json", "none"]

/-- Accepts the name of a report. -/
def acceptReport (name : String) : Except Rejection Unit :=
  if reportNames.contains name then .ok ()
  else refuseValue .diagnostics (.notAmong name reportNames)

/-- Accepts the value of a switch that counts. -/
def Given.accept (given : Given) (folder : Folder) (switch : Switch) : Except Rejection Unit :=
  match switch, given.last? switch with
  | .output, some path => acceptOutput folder path
  | .diagnostics, some name => acceptReport name
  | _, _ => .ok ()

/-- The report of a name, the one for people if there is no name. -/
def reportOf : Option String → Option Report.Format
  | none => some .console
  | some name => Report.Format.ofName? name

/-- The task that a command is with what is given for it. -/
def Command.task (command : Command) (given : Given) : Task :=
  match command with
  | .generate => .generate {
      output := (given.last? .output).filter (· != "")
      schemas := given.values .schema
      locales := given.values .locale
      functions := given.values .checkFunction
      report := reportOf (given.last? .diagnostics)
      isVerbose := given.has .verbose }
  | .types => .types (given.values .locale) (given.has .json)
  | .tables => .tables

/-- The request that a command is with what is given for it. Switches are looked at
    before operands, in the order in which they are given. -/
def Given.request (given : Given) (folder : Folder) (command : Command) :
    Except Rejection Request := do
  given.settings.forM fun setting => given.accept folder setting.1
  match given.operands with
  | [] => throw (.usage .metadataMissing)
  | metadata :: rest =>
    acceptMetadata folder metadata
    if rest.isEmpty then return { metadata, task := command.task given }
    else throw (.usage (.operandsLeft rest))

/-- The paths that have to be looked at before an invocation can be acted on. -/
def Invocation.paths : Invocation → List String
  | .help _ => []
  | .perform _ given =>
    let paths := given.operands.take 1 ++ given.values .output
    paths ++ paths.map Snapshot.normalPath

end DartModels.CommandLine
