import DartModels.Dart.Declaration
import DartModels.Resolution.ColumnType

namespace DartModels.Dart

/-- The class of the rows of a table or view. -/
structure RowClass where
  relation : Relation
  /-- The columns with their types in a row and in an insert. -/
  columns : List (Column × DartType × DartType)

namespace RowClass

/-- The row class of a relation with some columns. -/
def ofColumns (relation : Relation) (columns : List Column) (registry : Registry) :
    Except Fault RowClass := do
  let typed ← columns.mapM fun column => do
    return (column, ← column.type registry false, ← column.type registry true)
  return { relation, columns := typed }

/-- The class as a record of its columns. -/
def record (row : RowClass) : RecordClass :=
  { className := DartType.classNameOf row.relation.name ++ "Row"
    members := row.columns.map fun (column, type, _) => (column.name, type) }

/-- The constant that holds the name of the relation. -/
def header (row : RowClass) : List String :=
  ["  static const tableName = " ++ literal row.relation.name.spelling ++ ";", ""]

/-- The parameters of an insert. What the server fills in may be left out. -/
def insertParameters (row : RowClass) : List String :=
  row.columns.map fun (column, _, type) =>
    (if type.isNullable then "" else "required ") ++ type.typeName ++ " " ++
      RecordClass.property column.name

/-- The function that builds the JSON form of an insert. -/
def forInsert (row : RowClass) : String :=
  "  static Map<String, dynamic> forInsert" ++ parameters row.insertParameters ++
    " => _generateMap" ++
    arguments (RecordClass.forwarded (row.columns.map fun (column, _, _) => column.name)) ++ ";"

/-- Whether all names that the class is written with are texts. -/
def isSpellable (row : RowClass) : Bool :=
  row.relation.name.isText && row.record.isSpellable

/-- The whole class, with what inserts need where inserts are possible. -/
def source (row : RowClass) (withInsert : Bool) : String :=
  row.record.source row.header (if withInsert then [row.forInsert] else [])

end RowClass

/-- The row class of a relation as source text. -/
def rowSource (relation : Relation) (columns : List Column) (registry : Registry)
    (withInsert : Bool) : Except Fault String := do
  let row ← RowClass.ofColumns relation columns registry
  if row.isSpellable then return row.source withInsert else throw .nameNotText

end DartModels.Dart
