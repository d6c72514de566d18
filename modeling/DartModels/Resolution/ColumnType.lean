import DartModels.Registry

namespace DartModels.Column

/-- Whether a column holds JSON. -/
def holdsJson (column : Column) : Bool :=
  match column.format with
  | .text "json" | .text "jsonb" => true
  | _ => false

/-- The type of a column before it is decided whether it allows null. What a JSON
    schema gave a column that holds JSON comes first, then the catalog type of the
    format; a format that is not registered is dynamic. -/
def baseType (column : Column) (registry : Registry) : Except Fault DartType := do
  let override ← if column.holdsJson then registry.column? column.name else pure none
  match override with
  | some type => return type
  | none => return (← registry.find? column.format).getD .dynamic

/-- Whether the server fills the column in when an insert leaves it out. -/
def mayBeOmitted (column : Column) : Bool :=
  column.isGenerated || column.isIdentity ||
    match column.defaultValue with
    | .null => false
    | _ => true

/-- The type of a column, null allowed where the value may be absent. For an
    insert that includes what the server fills in. -/
def type (column : Column) (registry : Registry) (forInsert : Bool) : Except Fault DartType := do
  let base ← column.baseType registry
  return if column.isNullable || (forInsert && column.mayBeOmitted) then base.orNull else base

end DartModels.Column
