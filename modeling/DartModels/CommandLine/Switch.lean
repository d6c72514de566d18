namespace DartModels.CommandLine

/-- What the program can be asked to do. -/
inductive Command where
  /-- Write the classes for a snapshot. -/
  | generate
  /-- List the types that a snapshot needs. -/
  | types
  /-- List the tables and views of a snapshot. -/
  | tables
deriving DecidableEq, Repr

/-- The word that asks for a command. -/
def Command.name : Command → String
  | .generate => "generate"
  | .types => "types"
  | .tables => "tables"

/-- All commands. -/
def Command.all : List Command := [.generate, .types, .tables]

/-- The command that a word asks for. -/
def Command.ofName? (name : String) : Option Command :=
  Command.all.find? fun command => command.name == name

/-- What can be set for a command. -/
inductive Switch where
  | output
  | schema
  | locale
  | checkFunction
  | diagnostics
  | verbose
  | json
  | help
deriving DecidableEq, Repr

/-- The word for a switch. -/
def Switch.long : Switch → String
  | .output => "--output"
  | .schema => "--schema"
  | .locale => "--locale"
  | .checkFunction => "--check-function"
  | .diagnostics => "--diagnostics"
  | .verbose => "--verbose"
  | .json => "--json"
  | .help => "--help"

/-- The letter for a switch. -/
def Switch.letter? : Switch → Option Char
  | .output => some 'o'
  | .verbose => some 'v'
  | _ => none

/-- Whether a switch is given together with a value. -/
def Switch.takesValue : Switch → Bool
  | .output | .schema | .locale | .checkFunction | .diagnostics => true
  | .verbose | .json | .help => false

/-- The switches of a command. -/
def Command.switches : Command → List Switch
  | .generate =>
    [.output, .schema, .locale, .checkFunction, .diagnostics, .verbose, .help]
  | .types => [.locale, .json, .help]
  | .tables => [.help]

end DartModels.CommandLine
