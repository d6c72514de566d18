import DartModels.Catalog.Dependency
import DartModels.Diagnostic
import DartModels.Graph.Reachable
import DartModels.Traced

namespace DartModels.Catalog

/-- A column's format names no type of the catalog. -/
def typeNotFound (column : Column) : Diagnostic :=
  { code := "type_not_found"
    message := "Type not found for column " ++ column.name.display ++ ": format: " ++
      column.format.display ++ "\tdata_type: " ++ column.dataType.display
    subject := column.name
    context := [("table", column.table), ("format", column.format)] }

/-- The ids of the types that a column's format names: the type of that name, and
    the element type if it is the name of an array type. -/
def formatIds (byName : Table CatalogType) (column : Column) :
    Traced Diagnostic Fault (List Json.Key) := do
  let format ← .lift (label column.format)
  let named ←
    match byName.find? format.key with
    | some type => pure [type.id]
    | none => do
      .tell (typeNotFound column)
      pure []
  let name ← .lift (markedName column.format)
  let elements :=
    if isArrayName name then
      ((byName.find? (.text (baseName name))).map (·.id)).toList
    else []
  return (named ++ elements).filterMap Json.key?

/-- The steps from a type to the types of its attributes and to its element type.
    A step fails where a value of the wrong kind stands in its way. -/
def references (byId byName : Table CatalogType) (key : Json.Key) :
    List (Except Fault Json.Key) :=
  match byId.find? key with
  | none => []
  | some type =>
    let attributes := type.attributes.map fun part => (label part.typeId).map (·.key)
    let element :=
      match markedName type.name with
      | .error fault => [.error fault]
      | .ok name =>
        if isArrayName name then
          ((byName.find? (.text (baseName name))).bind (·.id.key?)).toList.map .ok
        else []
    attributes ++ element

/-- The types that a list of columns needs, in dependency order: those that the
    formats name and all that these refer to. -/
def requiredTypes (types : List CatalogType) (columns : List Column) :
    Traced Diagnostic Failure (List CatalogType) := do
  let byId ← .lift (Failure.ofFault (tableBy (·.id) types))
  let byName ← .lift (Failure.ofFault (tableBy (·.name) types))
  let starts ← (columns.mapM (formatIds byName)).mapError .fault
  let keys ← .lift <| Failure.ofFault <|
    Graph.reachable (byId.labels.map (·.key)) (references byId byName) starts.flatten
  .lift (sortByDependency (keys.filterMap byId.find?))

end DartModels.Catalog
