import DartModels.Json.Basic

namespace DartModels

/-- How much a diagnostic matters. -/
inductive Level where
  | info
  | warning
  | other (name : String)
deriving DecidableEq, Repr

/-- The name of a level. -/
def Level.name : Level → String
  | .info => "info"
  | .warning => "warning"
  | .other name => name

/-- The level of a name. -/
def Level.ofName : String → Level
  | "info" => .info
  | "warning" => .warning
  | name => .other name

/-- Something that was found while types were resolved and that a best effort can
    make up for. -/
structure Diagnostic where
  code : String
  message : String
  subject : Json
  level : Level := .warning
  context : Json.Members := []

namespace Diagnostic

/-- The members of the diagnostic as a JSON object. -/
def toMembers (diagnostic : Diagnostic) : Json.Members :=
  [("code", .text diagnostic.code), ("level", .text diagnostic.level.name),
    ("subject", diagnostic.subject), ("message", .text diagnostic.message),
    ("context", .object diagnostic.context)]

end Diagnostic
end DartModels
