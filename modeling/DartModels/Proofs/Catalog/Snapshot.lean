import DartModels.Catalog.Basic
import DartModels.Proofs.Catalog.Lookup

namespace DartModels

/-- A catalog type as the database gives it: its id and those of its attributes' types
    are whole numbers, its names and values are texts, and its comment is a text if it
    has one. -/
structure CatalogType.WellTyped (type : CatalogType) : Prop where
  id : ∃ id, type.id = .int id
  name : ∃ name, type.name = .text name
  enums : ∀ value ∈ type.enums, ∃ text, value = .text text
  parts : ∀ part ∈ type.attributes,
    (∃ name, part.name = .text name) ∧ ∃ id, part.typeId = .int id
  comment : type.comment = .null ∨ ∃ comment, type.comment = .text comment

structure Column.WellTyped (column : Column) : Prop where
  tableId : ∃ id, column.tableId = .int id
  name : ∃ name, column.name = .text name
  format : ∃ format, column.format = .text format
  check : column.check = .null ∨ ∃ check, column.check = .text check

structure Relation.WellTyped (relation : Relation) : Prop where
  id : ∃ id, relation.id = .int id
  name : ∃ name, relation.name = .text name

/-- A snapshot as the database gives it. Reading one does not check this. -/
structure Snapshot.WellTyped (snapshot : Snapshot) : Prop where
  schemas : ∀ schema ∈ snapshot.schemas, ∃ name, schema.name = .text name
  tables : ∀ table ∈ snapshot.tables, table.WellTyped
  views : ∀ view ∈ snapshot.views, view.WellTyped
  columns : ∀ column ∈ snapshot.columns, column.WellTyped
  types : ∀ type ∈ snapshot.types, type.WellTyped

namespace Snapshot.WellTyped

variable {snapshot : Snapshot} (htyped : snapshot.WellTyped)
include htyped

theorem catalog : Catalog.WellTyped snapshot.types where
  ids type htype := (htyped.types type htype).id
  names type htype := (htyped.types type htype).name
  parts type htype part hpart := by
    obtain ⟨_, id, hid⟩ := (htyped.types type htype).parts part hpart
    simp [hid, Json.key?]

theorem formats : ∀ column ∈ snapshot.columns, ∃ format, column.format = .text format :=
  fun column hcolumn => (htyped.columns column hcolumn).format

end Snapshot.WellTyped

/-- A list of types as the database gives it in which both ids and names tell the types
    apart. -/
structure Catalog.Unambiguous (types : List CatalogType) : Prop extends
    Catalog.WellTyped types where
  distinctIds : (types.map (·.id)).Nodup
  distinctNames : (types.map (·.name)).Nodup

/-- A type that is not among some types of a list does not share its id with one of them. -/
theorem Catalog.Unambiguous.id_notMem {types some : List CatalogType} (htypes : Unambiguous types)
    {type : CatalogType} (htype : type ∈ types) (hsub : ∀ other ∈ some, other ∈ types)
    (hnew : type ∉ some) : type.id ∉ some.map (·.id) := by
  intro hfound
  obtain ⟨other, hother, hsame⟩ := List.mem_map.mp hfound
  cases List.inj_on_of_nodup_map htypes.distinctIds (hsub other hother) htype hsame
  exact hnew hother

end DartModels
