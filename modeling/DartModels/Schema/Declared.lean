import DartModels.Json.Basic

namespace DartModels.Schema

/-- What the type of a schema says, apart from null. -/
inductive Alternative where
  /-- One type, by its name or by whatever stands in the place of one. -/
  | single (type : Json)
  /-- No type but null. -/
  | none
  /-- Several types at once. -/
  | several (types : List Json)

/-- The type of a schema: what it says apart from null, and whether null is allowed
    beside it. -/
structure Declared where
  alternative : Alternative
  orNull : Bool

/-- Whether a type is that of null alone. -/
def isNullType : Json → Bool
  | .text "null" => true
  | _ => false

mutual

/-- Reads the type of a schema. A list of one type is that type. -/
def declared : Json → Declared
  | .array types =>
    match declaredAll types with
    | [] => { alternative := .none, orNull := true }
    | [only] => { only with orNull := only.orNull || types.any isNullType }
    | _ => { alternative := .several types, orNull := false }
  | type => { alternative := .single type, orNull := false }

/-- Reads the types of a list other than null. -/
def declaredAll : List Json → List Declared
  | [] => []
  | type :: types =>
    if isNullType type then declaredAll types else declared type :: declaredAll types

end

end DartModels.Schema
