import DartModels.CommandLine.Switch
import DartModels.Text.Quoted
import DartModels.Text.Joined

namespace DartModels.CommandLine

/-- What a value can be given for that is not always accepted. -/
inductive Parameter where
  | metadata
  | output
  | diagnostics
deriving DecidableEq, Repr

/-- How a message names the parameter. -/
def Parameter.label : Parameter → String
  | .metadata => "'METADATA'"
  | .output => "'--output' / '-o'"
  | .diagnostics => "'--diagnostics'"

/-- Why a value is not accepted. -/
inductive Refusal where
  | absent (path : String)
  | directory (path : String)
  | unreadable (path : String)
  | notAmong (value : String) (choices : List String)
deriving DecidableEq, Repr

/-- What is said about a value that is not accepted. -/
def Refusal.message : Refusal → String
  | .absent path => "File " ++ Text.quoted path ++ " does not exist."
  | .directory path => "File " ++ Text.quoted path ++ " is a directory."
  | .unreadable path => "File " ++ Text.quoted path ++ " is not readable."
  | .notAmong value choices =>
    Text.quoted value ++ " is not one of " ++ Text.joined ", " (choices.map Text.quoted) ++ "."

/-- How the words of a command line fail to ask for something. -/
inductive UsageFault where
  | commandMissing
  | commandUnknown (name : String) (similar : List String)
  | switchUnknown (spelling : String) (similar : List String)
  | valueMissing (spelling : String)
  | valueNotTaken (spelling : String)
  | metadataMissing
  | refused (parameter : Parameter) (refusal : Refusal)
  | operandsLeft (operands : List String)
deriving DecidableEq, Repr

/-- The guess that goes on a message about an unknown word. -/
def guess : (similar : List String) → String
  | [] => ""
  | [only] => " Did you mean " ++ Text.quoted only ++ "?"
  | several => " (Did you mean one of: " ++ Text.joined ", " (several.map Text.quoted) ++ "?)"

namespace UsageFault

/-- What is wrong. -/
def message : UsageFault → String
  | .commandMissing => "Missing command."
  | .commandUnknown name similar => "No such command " ++ Text.quoted name ++ "." ++ guess similar
  | .switchUnknown spelling similar =>
    "No such option " ++ Text.quoted spelling ++ "." ++ guess similar
  | .valueMissing spelling => "Option " ++ Text.quoted spelling ++ " requires an argument."
  | .valueNotTaken spelling => "Option " ++ Text.quoted spelling ++ " does not take a value."
  | .metadataMissing => "Missing argument 'METADATA'."
  | .refused parameter refusal =>
    "Invalid value for " ++ parameter.label ++ ": " ++ refusal.message
  | .operandsLeft operands =>
    "Got unexpected extra argument" ++ (if operands.length = 1 then "" else "s") ++ " (" ++
      Text.joined " " operands ++ ")"

/-- Whether the message comes with a reminder of how the program is used. -/
def showsUsage : UsageFault → Bool
  | .valueMissing _ | .valueNotTaken _ => false
  | _ => true

end UsageFault

/-- How to call the program, or one of its commands. -/
def usageLine : Option Command → String
  | none => "Usage: pgdart [OPTIONS] COMMAND [ARGS]..."
  | some command => "Usage: pgdart " ++ command.name ++ " [OPTIONS] METADATA"

/-- Where to find out more. -/
def helpLine : Option Command → String
  | none => "Try 'pgdart --help' for help."
  | some command => "Try 'pgdart " ++ command.name ++ " --help' for help."

/-- A command line that asks for nothing that can be done. -/
structure UsageError where
  command : Option Command
  fault : UsageFault
deriving DecidableEq, Repr

/-- What is written about the command line. -/
def UsageError.text (error : UsageError) : String :=
  let reminder :=
    if error.fault.showsUsage then [usageLine error.command, helpLine error.command, ""] else []
  Text.lines (reminder ++ ["Error: " ++ error.fault.message, ""])

end DartModels.CommandLine
