import DartModels.Diagnostic
import DartModels.Json.Display
import DartModels.Json.Writer

namespace DartModels.Report

/-- The diagnostics of one code. -/
def ofCode (diagnostics : List Diagnostic) (code : String) : List Diagnostic :=
  diagnostics.filter fun diagnostic => diagnostic.code == code

/-- Adds one to the number of a code. -/
def countOne (code : String) : List (String × Nat) → List (String × Nat)
  | [] => [(code, 1)]
  | (other, n) :: rest =>
    if other = code then (other, n + 1) :: rest else (other, n) :: countOne code rest

/-- How often each code occurs, in the order in which the codes come first. -/
def counts (diagnostics : List Diagnostic) : List (String × Nat) :=
  diagnostics.foldl (fun counts diagnostic => countOne diagnostic.code counts) []

/-- The line of a diagnostic in a log. -/
def logLine (diagnostic : Diagnostic) : String :=
  "[" ++ diagnostic.code ++ "] " ++ diagnostic.message

/-- The level under which a diagnostic is logged: an unknown one is a warning. -/
def logLevel (diagnostic : Diagnostic) : String :=
  match diagnostic.level with
  | .info => "INFO"
  | _ => "WARNING"

/-- The line of a diagnostic in a report for people. -/
def detail (diagnostic : Diagnostic) : String :=
  let subject :=
    if diagnostic.subject.isTruthy then " (" ++ diagnostic.subject.display ++ ")" else ""
  "  [" ++ diagnostic.level.name ++ "] " ++ diagnostic.code ++ subject ++ ": " ++
    diagnostic.message

/-- A report for people. -/
def console (diagnostics : List Diagnostic) (withDetails : Bool) : String :=
  let head := ["=== pgdart Diagnostics ===", "Total: " ++ toString diagnostics.length]
  if diagnostics.isEmpty then Text.lines (head ++ ["  No diagnostics"])
  else
    let codes := (counts diagnostics).map fun (code, n) => "  " ++ code ++ ": " ++ toString n
    let details := if withDetails then ["", "Details:"] ++ diagnostics.map detail else []
    Text.lines (head ++ ["", "By code:"] ++ codes ++ details)

/-- A report as a JSON value. -/
def toJson (diagnostics : List Diagnostic) : Json :=
  .object [
    ("total", .int diagnostics.length),
    ("counts", .object ((counts diagnostics).map fun (code, n) => (code, .int n))),
    ("diagnostics", .array (diagnostics.map fun diagnostic => .object diagnostic.toMembers))]

/-- A report for programs. -/
def json (layout : Json.Layout) (diagnostics : List Diagnostic) : String :=
  (toJson diagnostics).print layout

/-- The forms that a report can have. -/
inductive Format where
  | console
  | json
deriving DecidableEq, Repr

/-- The form of a name. -/
def Format.ofName? : String → Option Format
  | "console" => some .console
  | "json" => some .json
  | _ => none

/-- What is said about a name that is that of no form. -/
def unknownFormat (name : String) : String :=
  "Unknown report format: " ++ name

/-- The report in some form. -/
def write (format : Format) (diagnostics : List Diagnostic) : String :=
  match format with
  | .console => console diagnostics true
  | .json => json (.indented 2) diagnostics

end DartModels.Report
