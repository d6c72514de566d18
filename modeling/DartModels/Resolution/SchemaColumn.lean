import DartModels.Constraint.SchemaCheck
import DartModels.Resolution.ColumnType
import DartModels.Schema.Typing

namespace DartModels

/-- The type that the check constraint of a column gives it, if the column holds
    JSON and the check holds a schema. A column that may be null keeps that. A type
    whose name is not made of texts is settled all the same, but is no result. -/
def Column.schemaType [Text.HalfBlock] (functions : List String) (column : Column) :
    Schema.Typed (Option DartType) :=
  if column.holdsJson && column.check.isTruthy then do
    let schema ← (Constraint.extractFrom functions column.name column.check).mapTrace .noted
    match schema with
    | none => return none
    | some members => do
      let type ← Schema.typeOf (.object members) column.name
      let type := if column.isNullable then type.orNull else type
      let label ← .lift (Catalog.label column.name)
      .tell (.column label type)
      if type.isSpellable then return some type else .lift (.error .nameNotText)
  else pure none

/-- Enters what an event settled. -/
def Registry.record (registry : Registry) : Schema.Event → Registry
  | .noted _ => registry
  | .derived name type => registry.insertDerived name type
  | .column label type => registry.insertColumn label type

/-- What an event has to say. -/
def Schema.Event.diagnostic? : Schema.Event → Option Diagnostic
  | .noted diagnostic => some diagnostic
  | _ => none

end DartModels
