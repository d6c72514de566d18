import DartModels.CommandLine.Request
import DartModels.Resolution.Generator
import DartModels.Text.Unstyled

namespace DartModels.CommandLine

/-- What the program does that can be seen from outside. -/
inductive Effect where
  /-- Text for the output of the program. -/
  | out (text : String)
  /-- Text for its messages. -/
  | err (text : String)
  /-- The whole content of a file. -/
  | save (path content : String)
deriving DecidableEq, Repr

/-- How a run ends that does not reach its end. -/
inductive Stop where
  /-- The command line asks for nothing that can be done. -/
  | refused
  /-- A problem was met and reported. -/
  | aborted
  /-- A value of the wrong kind was met. -/
  | fault (fault : Fault)
deriving DecidableEq, Repr

/-- The exit code of a run. -/
def exitCode : Except Stop Unit → Nat
  | .ok () => 0
  | .error .refused => 2
  | .error .aborted => 1
  | .error (.fault _) => 1

/-- A part of a run: its effects in order, and how it ends. -/
abbrev Run := Traced Effect Stop

variable [Text.HalfBlock]

namespace Run

/-- Ends the run. -/
def stop {α : Type} (reason : Stop) : Run α :=
  .lift (.error reason)

/-- Writes to the output, as plain text. A text with half of a character in it cannot be
    encoded, and none of it is written. -/
def print (text : String) : Run Unit :=
  if Text.isEncodable text then .tell (.out (Text.unstyled text))
  else stop (.fault .notEncodable)

/-- Writes to the output, with a line end. -/
def printLine (text : String) : Run Unit :=
  print (text ++ "\n")

/-- Writes a message with a line end, as plain text. Halves of characters are written as
    their codes. -/
def complain (text : String) : Run Unit :=
  .tell (.err (Text.encodable (Text.unstyled (text ++ "\n"))))

/-- Writes a whole file. The file is emptied before its content is encoded, so it stays empty
    if there is half of a character in the content. -/
def save (path content : String) : Run Unit :=
  if Text.isEncodable content then .tell (.save path content)
  else do
    .tell (.save path "")
    stop (.fault .notEncodable)

/-- Goes on with a value, unless one of the wrong kind was met. -/
def ofFault {α : Type} (result : Except Fault α) : Run α :=
  .lift (result.mapError .fault)

end Run

/-- The lines that report a problem. The correlation id is shown if there is one. -/
def problemLines (problem : Problem) (correlation : Option String) : List String :=
  let context :=
    if problem.context.isEmpty then []
    else ["📍 Context: " ++ (Json.object problem.context).literal]
  let suggestions :=
    if problem.suggestions.isEmpty then []
    else ["", "💡 Suggestions:"] ++ problem.suggestions.map ("   • " ++ ·)
  let correlation :=
    match correlation with
    | none => []
    | some id => ["", "🔍 Correlation ID: " ++ id]
  ["", "❌ " ++ problem.code ++ ": " ++ problem.message] ++ context ++ suggestions ++ correlation

/-- Goes on with a value, unless a failure was met. A problem is reported. -/
def Run.ofFailure {α : Type} (correlation : Option String) (result : Except Failure α) : Run α :=
  match result with
  | .ok value => pure value
  | .error (.fault fault) => Run.stop (.fault fault)
  | .error (.problem problem) => do
    Run.complain (Text.lines (problemLines problem correlation))
    Run.complain "Aborted!"
    Run.stop .aborted

/-- The snapshot under a path. -/
def loaded (folder : Folder) (path : String) : Except Failure Snapshot :=
  let path := Snapshot.normalPath path
  Snapshot.ofFile path (folder path)

/-- A list, or a default where it is empty. -/
def orDefault (given default : List String) : List String :=
  if given.isEmpty then default else given

/-- The generator that a generation asks for. -/
def Generation.generator (generation : Generation) : Generator :=
  let defaults : Generator := {}
  { locales := orDefault generation.locales defaults.locales
    functions := orDefault generation.functions defaults.functions
    schemas := if generation.schemas.isEmpty then none else some generation.schemas }

/-- Writes the classes for a snapshot. They are complete before the first of them
    is written. -/
def generate (folder : Folder) (correlation : String) (metadata : String)
    (generation : Generation) : Run Unit := do
  let generator := generation.generator
  let shown := if generation.isVerbose then some correlation else none
  let (source, resolution) ← Run.ofFailure shown do
    let snapshot ← loaded folder metadata
    let resolution ← generator.resolve snapshot
    return (← Failure.ofFault (generator.render snapshot resolution), resolution)
  match generation.output with
  | some path =>
    Run.save (Snapshot.normalPath path) source
    Run.complain ("✅ Wrote " ++ toString resolution.declarables.length ++
      " declarations to " ++ path)
  | none => Run.print source
  match generation.report with
  | some format =>
    if resolution.diagnostics.isEmpty then pure ()
    else Run.complain (Report.write format resolution.diagnostics)
  | none => pure ()

/-- The name of a type, which has to be made of texts. -/
def spelled (type : DartType) : Except Fault String :=
  if type.isSpellable then .ok type.typeName else .error .nameNotText

/-- The members that sum a type up, whose name has to be made of texts. -/
def summed (type : DartType) : Except Fault Json.Members := do
  let _ ← spelled type
  return type.summary

/-- The name of a member that is named by a value. -/
def memberName : Json → String
  | .text name => name
  | other => other.print .oneLine

/-- The types of a registry as a JSON value. -/
def typesJson (registry : Registry) : Except Fault Json := do
  let types ← registry.catalogEntries.mapM fun (type, target) => do
    return Json.object ([("name", type.name), ("id", type.id)] ++ (← summed target))
  let columns ← registry.columns.entries.mapM fun (label, target) => do
    return (memberName label.spelling, Json.object (← summed target))
  return .object [("types", .array types), ("columns", .object columns)]

/-- Lists the types of a registry, a line for each. -/
def listTypes (registry : Registry) : Run Unit := do
  registry.catalogEntries.forM fun (type, target) => do
    let name ← Run.ofFault (spelled target)
    Run.printLine (type.name.display ++ " (" ++ type.id.display ++ ") -> " ++ name)
  registry.columns.entries.forM fun (label, target) => do
    let name ← Run.ofFault (spelled target)
    Run.printLine ("column " ++ label.spelling.display ++ " -> " ++ name)

/-- Lists the types that a snapshot needs. -/
def types (folder : Folder) (metadata : String) (locales : List String) (asJson : Bool) :
    Run Unit := do
  let defaults : Generator := {}
  let generator := { defaults with locales := orDefault locales defaults.locales }
  let resolution ← Run.ofFailure none do
    generator.resolve (← loaded folder metadata)
  if asJson then
    let value ← Run.ofFault (typesJson resolution.registry)
    Run.printLine (value.print (.indented 2))
  else listTypes resolution.registry

/-- Lists a relation with its columns. -/
def listRelation (registry : Registry) (groups : Table (List Column)) (relation : Relation) :
    Run Unit := do
  let columns ← Run.ofFault (Snapshot.columnsOf groups relation)
  Run.printLine ("  - " ++ relation.schema.display ++ "." ++ relation.name.display ++ " (" ++
    toString columns.length ++ " columns)")
  columns.forM fun column => do
    let name ← Run.ofFault do spelled (← column.type registry false)
    Run.printLine ("      " ++ column.name.display ++ ": " ++ name)

/-- Lists relations under a title, if there are any. -/
def listRelations (registry : Registry) (groups : Table (List Column)) (title : String)
    (relations : List Relation) : Run Unit := do
  if relations.isEmpty then return
  Run.printLine title
  relations.forM (listRelation registry groups)

/-- Lists the tables and views of a snapshot. -/
def tables (folder : Folder) (metadata : String) : Run Unit := do
  let generator : Generator := {}
  let (snapshot, resolution) ← Run.ofFailure none do
    let snapshot ← loaded folder metadata
    return (snapshot, ← generator.resolve snapshot)
  let groups ← Run.ofFault (Snapshot.columnsByTable snapshot.columns)
  let tables ← Run.ofFault (generator.select snapshot snapshot.tables)
  let views ← Run.ofFault (generator.select snapshot snapshot.views)
  listRelations resolution.registry groups "📊 Tables:" tables
  listRelations resolution.registry groups "📈 Views:" views

/-- Does what is asked for. -/
def Request.run (request : Request) (folder : Folder) (correlation : String) : Run Unit :=
  match request.task with
  | .generate generation => generate folder correlation request.metadata generation
  | .types locales asJson => types folder request.metadata locales asJson
  | .tables => tables folder request.metadata

/-- Refuses a command line. -/
def refuse (error : UsageError) : Run Unit := do
  .tell (.err (Text.unstyled error.text))
  Run.stop .refused

/-- Acts on an invocation. -/
def Invocation.run (invocation : Invocation) (folder : Folder) (correlation : String) :
    Run Unit :=
  match invocation with
  | .help command => Run.printLine (usageLine command)
  | .perform command given =>
    match given.request folder command with
    | .error (.usage fault) => refuse ⟨some command, fault⟩
    | .error (.fault fault) => Run.stop (.fault fault)
    | .ok request => request.run folder correlation

/-- Acts on a whole command line in a folder. The correlation id is for messages
    about problems. -/
def run (folder : Folder) (correlation : String) (words : List String) : Run Unit :=
  match Invocation.ofWords words with
  | .error error => refuse error
  | .ok invocation => invocation.run folder correlation

end DartModels.CommandLine
