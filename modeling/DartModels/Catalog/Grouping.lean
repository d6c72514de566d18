import DartModels.Catalog.Dependency
import DartModels.Sorting.Sort

namespace DartModels.Snapshot

/-- Whether the name of the first column comes before that of the second one. -/
def isBefore (first second : Column) : Except Fault Bool :=
  match first.name.precedes? second.name with
  | some answer => .ok answer
  | none => .error .namesNotOrdered

/-- The columns by name. Columns of one name keep their order. -/
def sortedByName (columns : List Column) : Except Fault (List Column) :=
  Sorting.sort isBefore columns

/-- Adds a column to the group of its table. -/
def addToGroup (groups : Table (List Column)) (label : Label) (column : Column) :
    Table (List Column) :=
  groups.insert label (((groups.find? label.key).getD []) ++ [column])

/-- The columns of each table, by name. Tables come in the order of their first
    columns. -/
def columnsByTable (columns : List Column) : Except Fault (Table (List Column)) := do
  let sorted ← sortedByName columns
  let labelled ← sorted.mapM fun column => do return (← Catalog.label column.tableId, column)
  return labelled.foldl (fun groups (label, column) => addToGroup groups label column) ⟨[]⟩

/-- The columns of one table. -/
def columnsOf (groups : Table (List Column)) (relation : Relation) :
    Except Fault (List Column) := do
  let label ← Catalog.label relation.id
  return (groups.find? label.key).getD []

end DartModels.Snapshot
