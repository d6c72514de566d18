import DartModels.Fault
import DartModels.Json.Basic
import DartModels.Json.Display

namespace DartModels

/-- What a problem is about in general. -/
inductive ProblemKind where
  | general
  | schema
  | circularDependency
  | metadata
deriving DecidableEq, Repr

/-- The code of a problem that is given no code of its own. -/
def ProblemKind.code : ProblemKind → String
  | .general => "PGDART_ERROR"
  | .schema => "SCHEMA_ERROR"
  | .circularDependency => "CIRCULAR_DEPENDENCY"
  | .metadata => "METADATA_ERROR"

/-- Whether a problem concerns the types of the schema. -/
def ProblemKind.isSchema : ProblemKind → Bool
  | .schema | .circularDependency => true
  | .general | .metadata => false

/-- A problem that ends a run and that its user can mend: what it is, what it is
    about, and what to do. -/
structure Problem where
  kind : ProblemKind
  message : String
  code : String
  context : Json.Members := []
  suggestions : List String := []

namespace Problem

/-- The members of a context that name the object a problem is about, in the
    order in which they are shown. -/
def subjectNames : List String := ["type", "column", "path", "record"]

/-- The objects that the problem is about. -/
def subject (problem : Problem) : Json.Members :=
  subjectNames.filterMap fun name => (problem.context.lookup name).map fun value => (name, value)

/-- The rest of the context. -/
def details (problem : Problem) : Json.Members :=
  problem.context.filter fun (name, _) => !subjectNames.contains name

/-- The members of the problem as a JSON object, its subject among them. -/
def toMembers (problem : Problem) (correlationId : String) : Json.Members :=
  let start := [("error", .text problem.code), ("message", .text problem.message)]
  let details := if problem.details.isEmpty then [] else [("context", .object problem.details)]
  let ending := [("suggestions", .array (problem.suggestions.map .text)),
    ("correlation_id", .text correlationId)]
  start ++ problem.subject ++ details ++ ending

/-- The problem on one line, its suggestions on further ones. -/
def summary (problem : Problem) : String :=
  let subject := Text.joined ", " <| problem.subject.map fun (name, value) =>
    name ++ " " ++ value.display
  let note := if subject = "" then "" else " (" ++ subject ++ ")"
  Text.lines (("[" ++ problem.code ++ "] " ++ problem.message ++ note) ::
    problem.suggestions.map ("  - " ++ ·))

/-- The same problem under a code of its own, if one is given. -/
def withCode (problem : Problem) (code : String) : Problem :=
  if code = "" then problem else { problem with code }

/-- A problem that is about nothing in particular. -/
def general (message : String) (context : Json.Members) : Problem :=
  { kind := .general, message, code := ProblemKind.general.code, context }

/-- Sets a member of the context if there is something to set. -/
def note (name : String) (value : Json) (context : Json.Members) : Json.Members :=
  if value.isTruthy then Json.put name value context else context

/-- A problem with a type or a column. -/
def schema (message : String) (typeName columnName : Json) (context : Json.Members) : Problem :=
  { kind := .schema, message, code := ProblemKind.schema.code,
    context := note "column" columnName (note "type" typeName context) }

/-- What to do about types that need each other. -/
def circularSuggestions (typeName : Json) : List String :=
  ["Check the attributes of composite type '" ++ typeName.display ++ "'",
    "Break the cycle by replacing one attribute with a json/jsonb column"]

/-- Types need each other, so they cannot be put in order. -/
def circularDependency (typeName columnName : Json) (context : Json.Members) : Problem :=
  { schema ("Circular dependency detected involving type " ++ typeName.display) typeName
      columnName context with
    kind := .circularDependency
    code := ProblemKind.circularDependency.code
    suggestions := circularSuggestions typeName }

/-- A type is entered a second time. -/
def alreadyRegistered (typeName : Json) : Problem :=
  schema ("Type " ++ typeName.display ++ " is already registered") typeName .null []

/-- What to do about a snapshot that cannot be read. -/
def metadataSuggestions : List String :=
  ["Check that the file is a JSON export of the schema metadata",
    "Ensure every type has 'id' and 'name' and every column has 'table_id', 'name' and 'format'"]

/-- A snapshot cannot be read. -/
def metadata (message : String) (path record : Json) (context : Json.Members) : Problem :=
  { kind := .metadata, message, code := ProblemKind.metadata.code,
    context := note "record" record (note "path" path context)
    suggestions := metadataSuggestions }

end Problem

/-- How a run ends without a result: with a problem to mend, or with a value of
    the wrong kind. -/
inductive Failure where
  | problem (problem : Problem)
  | fault (fault : Fault)

/-- The value of a step that can only meet values of the wrong kind. -/
def Failure.ofFault {α : Type} (result : Except Fault α) : Except Failure α :=
  result.mapError .fault

end DartModels
