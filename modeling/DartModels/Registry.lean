import DartModels.Catalog.Dependency
import DartModels.Dart.Type

namespace DartModels

/-- The types that a run has settled. Catalog types are entered under their id and
    their name. What JSON schemas give has names of its own, so that it never hides a
    catalog type. -/
structure Registry where
  byId : Table (CatalogType × DartType) := ⟨[]⟩
  byName : Table (CatalogType × DartType) := ⟨[]⟩
  derived : Table DartType := ⟨[]⟩
  columns : Table DartType := ⟨[]⟩
  /-- Everything that JSON schemas gave, in the order in which it was entered. -/
  schemaTypes : List DartType := []

namespace Registry

/-- The number of catalog types. -/
def size (registry : Registry) : Nat :=
  registry.byId.size

/-- Enters a catalog type under its id, which must be new. -/
def insertById (registry : Registry) (type : CatalogType) (target : DartType) :
    Except Failure Registry := do
  let id ← Failure.ofFault (Catalog.label type.id)
  if registry.byId.contains id.key then throw (.problem (.alreadyRegistered type.name))
  return { registry with byId := registry.byId.insert id (type, target) }

/-- Enters a catalog type under its name. Of types that share it the last one
    counts. -/
def insertByName (registry : Registry) (type : CatalogType) (target : DartType) :
    Except Fault Registry := do
  let name ← Catalog.label type.name
  return { registry with byName := registry.byName.insert name (type, target) }

/-- Enters a catalog type under its id, which must be new, and its name. -/
def insert (registry : Registry) (type : CatalogType) (target : DartType) :
    Except Failure Registry := do
  let registry ← registry.insertById type target
  Failure.ofFault (registry.insertByName type target)

/-- Enters the type of an array element or a property. -/
def insertDerived (registry : Registry) (name : String) (target : DartType) : Registry :=
  { registry with
    derived := registry.derived.insert ⟨.text name, .text name⟩ target
    schemaTypes := registry.schemaTypes ++ [target] }

/-- Enters the type of a column. -/
def insertColumn (registry : Registry) (label : Label) (target : DartType) : Registry :=
  { registry with
    columns := registry.columns.insert label target
    schemaTypes := registry.schemaTypes ++ [target] }

/-- The catalog type of an id or a name, and its target. Whole numbers and truth
    values are ids, all other values are names. -/
def entry? (registry : Registry) (key : Json) :
    Except Fault (Option (CatalogType × DartType)) := do
  let label ← Catalog.label key
  match key with
  | .int _ | .bool _ => return registry.byId.find? label.key
  | _ => return registry.byName.find? label.key

/-- The catalog type of an id or a name. -/
def type? (registry : Registry) (key : Json) : Except Fault (Option CatalogType) := do
  return (← registry.entry? key).map Prod.fst

/-- Whether a catalog type is entered under an id or a name. -/
def holds (registry : Registry) (key : Json) : Except Fault Bool := do
  let label ← Catalog.label key
  match key with
  | .int _ | .bool _ => return registry.byId.contains label.key
  | _ => return registry.byName.contains label.key

/-- The target of an id or a name. -/
def find? (registry : Registry) (key : Json) : Except Fault (Option DartType) := do
  return (← registry.entry? key).map Prod.snd

/-- The target of a name. -/
def findNamed? (registry : Registry) (name : String) : Option DartType :=
  (registry.byName.find? (.text name)).map Prod.snd

/-- The type that a JSON schema gave an array element or a property. -/
def derived? (registry : Registry) (name : String) : Option DartType :=
  registry.derived.find? (.text name)

/-- The type that a JSON schema gave a column. -/
def column? (registry : Registry) (name : Json) : Except Fault (Option DartType) := do
  return registry.columns.find? (← Catalog.label name).key

/-- The catalog types with their targets, in the order in which they were
    entered. -/
def catalogEntries (registry : Registry) : List (CatalogType × DartType) :=
  registry.byId.values

end Registry
end DartModels
