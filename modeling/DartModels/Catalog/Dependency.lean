import DartModels.Catalog.Basic
import DartModels.Graph.Postorder
import DartModels.Json.Table
import DartModels.Problem

namespace DartModels.Catalog

/-- The label that a value makes, for a table that has to have one. -/
def label (value : Json) : Except Fault Label :=
  match Label.of? value with
  | some label => .ok label
  | none => .error .notKey

/-- The catalog types by some part of theirs. Of types that share it the last one
    counts. -/
def tableBy (part : CatalogType → Json) (types : List CatalogType) :
    Except Fault (Table CatalogType) := do
  let entries ← types.mapM fun type => do return (← label (part type), type)
  return Table.ofList entries

/-- The labels without those that repeat an earlier key. -/
def distinctLabels (labels : List Label) : List Label :=
  (Table.ofList (labels.map fun label => (label, ()))).labels

/-- The types of a type's attributes other than itself, and behind them the
    element type of an array type, if the table of names has it. -/
def neededIds (byName : Table CatalogType) (type : CatalogType) : Except Fault (List Json) := do
  let attributeIds := (type.attributes.map (·.typeId)).filter fun id => !id.equals type.id
  let name ← markedName type.name
  if isArrayName name then
    match byName.find? (.text (baseName name)) with
    | some element =>
      match element.id with
      | .null => return attributeIds
      | id => return if id.equals type.id then attributeIds else attributeIds ++ [id]
    | none => return attributeIds
  else return attributeIds

/-- What each type needs before it: the edges of the type graph, under the id of
    the type. -/
def dependencies (types : List CatalogType) : Except Fault (Table (List Label)) := do
  let byName ← tableBy (·.name) types
  let entries ← types.mapM fun type => do
    let needed ← (← neededIds byName type).mapM label
    return (← label type.id, distinctLabels needed)
  return Table.ofList entries

/-- The keys of what a type needs. -/
def neededKeys (edges : Table (List Label)) (key : Json.Key) : List Json.Key :=
  ((edges.find? key).getD []).map (·.key)

/-- The graph of types by the keys of their ids. -/
def typeGraph (byId : Table CatalogType) (edges : Table (List Label)) : Graph Json.Key :=
  { nodes := byId.labels.map (·.key), next := neededKeys edges }

/-- Puts each type behind the types that it needs. Array types come last, in their
    order, except for those that a type other than an array needs; these stay where
    the order of needs puts them. -/
def sortByDependency (types : List CatalogType) : Except Failure (List CatalogType) := do
  let byId ← Failure.ofFault (tableBy (·.id) types)
  let edges ← Failure.ofFault (dependencies types)
  match (typeGraph byId edges).postorder with
  | .error key =>
    let name := ((byId.find? key).map (·.name)).getD .null
    throw (.problem (.circularDependency name .null []))
  | .ok keys =>
    let ordered := keys.filterMap fun key => (byId.find? key).map fun type => (key, type)
    let pinned := (ordered.filter fun (_, type) => !type.isArray).flatMap fun (key, _) =>
      neededKeys edges key
    let trailing := fun (entry : Json.Key × CatalogType) =>
      entry.2.isArray && !pinned.contains entry.1
    return (ordered.filter (!trailing ·) ++ ordered.filter trailing).map Prod.snd

end DartModels.Catalog
