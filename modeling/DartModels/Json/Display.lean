import DartModels.Json.Basic
import DartModels.Text.Joined
import DartModels.Text.Quoted

namespace DartModels.Json

mutual

/-- The spelling of a value inside a message, with texts in quotes. -/
def literal : Json → String
  | .null => "None"
  | .bool true => "True"
  | .bool false => "False"
  | .int value => toString value
  | .float value => value.text
  | .text value => Text.quoted value
  | .array items => "[" ++ Text.joined ", " (itemLiterals items) ++ "]"
  | .object members => "\x7b" ++ Text.joined ", " (memberLiterals members) ++ "\x7d"

/-- The spellings of the items of an array. -/
def itemLiterals : List Json → List String
  | [] => []
  | item :: items => literal item :: itemLiterals items

/-- The spellings of the members of an object. -/
def memberLiterals : Members → List String
  | [] => []
  | (name, value) :: members =>
    (Text.quoted name ++ ": " ++ literal value) :: memberLiterals members

end

/-- The text that a value puts into a message: a text as it is, anything else as
    its literal. -/
def display : Json → String
  | .text value => value
  | other => other.literal

end DartModels.Json
