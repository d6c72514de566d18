import DartModels.Diagnostic
import DartModels.Fault
import DartModels.Json.Reader
import DartModels.Sql.Parse
import DartModels.Text.Lowercase
import DartModels.Text.Occurrence
import DartModels.Text.Word
import DartModels.Traced

namespace DartModels.Constraint

/-- The functions that validate a value against a schema unless others are
    named. -/
def defaultFunctions : List String := ["jsonb_matches_schema", "json_matches_schema"]

/-- The letters of the keyword in front of a check, each with all its spellings. -/
def checkLetters : List (List Char) :=
  [['C', 'c'], ['H', 'h'], ['E', 'e'], ['C', 'c'], ['K', 'k', '\u212a']]

/-- What follows some letters. -/
def afterLetters : List (List Char) → List Char → Option (List Char)
  | [], cs => some cs
  | _ :: _, [] => none
  | spellings :: more, c :: rest =>
    if spellings.contains c then afterLetters more rest else none

/-- The text without the keyword in front, which ends where no word goes on. -/
def dropCheckKeyword (cs : List Char) : List Char :=
  match afterLetters checkLetters (cs.dropWhile Text.isBlank) with
  | some [] => []
  | some (c :: rest) => if Text.isWordCharacter c then cs else c :: rest
  | none => cs

/-- The expression of a check constraint. -/
def expressionOf (check : String) : List Char :=
  Text.trimBlanks (dropCheckKeyword check.toList)

/-- Whether one of some functions, in small letters, is named in an expression. -/
def mentions (functions : List String) (expression : List Char) : Bool :=
  let small := Text.lowercaseAfter [] expression
  functions.any fun function => Text.occursIn function.toList small

/-- Why a check that names a function does not give a schema. -/
inductive CheckFault where
  | unreadable (message : String)
  | notSingleCall
  | notLiteral (function : String)
  | notJson (fault : Json.SyntaxFault)
  | notObject

/-- The diagnostic of a fault. -/
def CheckFault.diagnostic (check : String) (subject : Json) : CheckFault → Diagnostic
  | .unreadable message =>
    { code := "check_unreadable"
      message := "Could not parse check constraint: " ++ message
      subject }
  | .notSingleCall =>
    { code := "check_unreadable"
      message := "Check constraint is not a single schema validation call"
      subject
      context := [("check", .text check)] }
  | .notLiteral function =>
    { code := "check_unreadable"
      message := "First argument of " ++ function ++ " is not a string literal"
      subject
      context := [("check", .text check)] }
  | .notJson fault =>
    { code := "json_schema_invalid"
      message := "Embedded JSON schema is not valid JSON: " ++ fault.message
      subject }
  | .notObject =>
    { code := "json_schema_invalid"
      message := "Embedded JSON schema is not an object"
      subject }

/-- The text that the first argument of a call is, plain or marked as JSON. -/
def literalOf : Option Sql.Shape → Option String
  | some (.literal content) | some (.json content) => some content
  | _ => none

variable [Text.HalfBlock]

/-- The members of the schema in an expression, which has to be a call of one of
    the functions whose first argument is a text that holds a JSON object, or what is wrong
    with the expression. -/
def schemaOf (functions : List String) (expression : List Char) :
    Except Fault (Except CheckFault Json.Members) :=
  match Sql.parse expression with
  | .error message => .ok (.error (.unreadable message))
  | .ok shape =>
    match shape.stripped with
    | .call function first =>
      if functions.contains (Text.lowercase function) then
        match literalOf first with
        | none => .ok (.error (.notLiteral function))
        | some content =>
          match Json.load content with
          | .error .tooManyDigits => .error .tooManyDigits
          | .error (.malformed error) => .ok (.error (.notJson error.fault))
          | .ok (.object members) => .ok (.ok members)
          | .ok _ => .ok (.error .notObject)
      else .ok (.error .notSingleCall)
    | _ => .ok (.error .notSingleCall)

/-- The schema of a check constraint. A check that names none of the functions is
    about something else. -/
def extract (functions : List String) (subject : Json) (check : String) :
    Traced Diagnostic Fault (Option Json.Members) :=
  let functions := functions.map Text.lowercase
  let expression := expressionOf check
  if mentions functions expression then do
    match ← .lift (schemaOf functions expression) with
    | .ok members => return some members
    | .error fault => do
      .tell (fault.diagnostic check subject)
      return none
  else pure none

/-- The schema of a value that may be a check constraint. -/
def extractFrom (functions : List String) (subject check : Json) :
    Traced Diagnostic Fault (Option Json.Members) :=
  if check.isTruthy then
    match check with
    | .text check => extract functions subject check
    | _ => .lift (.error .checkNotText)
  else pure none

end DartModels.Constraint
