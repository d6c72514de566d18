import DartModels.Number.Shortest

namespace DartModels

/-- A JSON value. Whole numbers are kept apart from numbers written with a
    fraction or an exponent, and an object keeps its members in order. -/
inductive Json where
  | null
  | bool (value : Bool)
  | int (value : Int)
  | float (value : Binary64)
  | text (value : String)
  | array (items : List Json)
  | object (members : List (String × Json))
deriving Inhabited

namespace Json

/-- The members of an object, in order. -/
abbrev Members := List (String × Json)

/-- Sets the member of that name: in its place if the name is there already, at
    the end otherwise. -/
def put (name : String) (value : Json) : Members → Members
  | [] => [(name, value)]
  | (n, v) :: rest =>
    if n = name then (name, value) :: rest else (n, v) :: put name value rest

/-- The members that a sequence of assignments leaves: a repeated name keeps its
    first place and its last value. -/
def assign (assignments : Members) : Members :=
  assignments.foldl (fun members (name, value) => put name value members) []

/-- The names of the members. -/
def names (members : Members) : List String :=
  members.map Prod.fst

/-- Whether a value counts as given: `null`, `false`, zero and empty texts,
    arrays and objects do not. -/
def isTruthy : Json → Bool
  | .null => false
  | .bool value => value
  | .int value => value != 0
  | .float value => !value.isZero
  | .text value => value != ""
  | .array items => !items.isEmpty
  | .object members => !members.isEmpty

/-- The value itself where it counts as given, `default` otherwise. -/
def orElse (value default : Json) : Json :=
  if value.isTruthy then value else default

/-- The characters of a text value; any other value spells nothing. -/
def spelling : Json → String
  | .text value => value
  | _ => ""

/-- Whether a value is a text. -/
def isText : Json → Bool
  | .text _ => true
  | _ => false

end Json
end DartModels
