import DartModels.Fault
import DartModels.Json.Basic

namespace DartModels

/-- A named part of a composite type, with the id of its type. -/
structure Attribute where
  name : Json
  typeId : Json

/-- A type of the database catalog. Its leaves are kept as the snapshot has them. -/
structure CatalogType where
  id : Json
  name : Json
  schema : Json := .text "public"
  format : Json := .text ""
  enums : List Json := []
  attributes : List Attribute := []
  comment : Json := .null

/-- A column of a table or view. -/
structure Column where
  tableId : Json
  name : Json
  format : Json
  dataType : Json := .text ""
  isNullable : Bool := true
  isGenerated : Bool := false
  isIdentity : Bool := false
  defaultValue : Json := .null
  check : Json := .null
  schema : Json := .text "public"
  table : Json := .text ""
  comment : Json := .null

/-- A table or view. -/
structure Relation where
  id : Json
  name : Json
  schema : Json := .text "public"
  comment : Json := .null

/-- A schema that is selected for generation. -/
structure Schema where
  id : Json
  name : Json

/-- All that one run needs to know about a database. -/
structure Snapshot where
  schemas : List Schema
  tables : List Relation
  views : List Relation
  columns : List Column
  types : List CatalogType

/-- The names of the selected schemas. -/
def Snapshot.schemaNames (snapshot : Snapshot) : List Json :=
  snapshot.schemas.map (·.name)

namespace Catalog

/-- Whether a name is marked as that of an array type. -/
def isArrayName (name : String) : Bool :=
  name.toList.head? == some '_'

/-- The name of an array type's elements; any other name itself. -/
def baseName (name : String) : String :=
  match name.toList with
  | '_' :: rest => String.ofList rest
  | _ => name

/-- A name that can be asked for the mark of an array type. -/
def markedName : Json → Except Fault String
  | .text name => .ok name
  | _ => .error .markOfNonText

end Catalog

/-- Whether a type's name carries the mark of an array type. -/
def CatalogType.isArray (type : CatalogType) : Bool :=
  Catalog.isArrayName type.name.spelling

end DartModels
