import DartModels.Proofs.Resolution.Run

namespace DartModels

open Catalog (labelOf labelOf_text_inj)
open Schema (Event)

/-- What the check of a column enters for it, if it gives the column a type. -/
def Column.assignment? (functions : List String) (column : Column) : Option (Label × DartType) :=
  (column.checkedType? functions).map fun type => (labelOf column.name, type)

theorem Column.checkedType?_eq_some_iff {column : Column} {functions : List String}
    {type : DartType} :
    column.checkedType? functions = some type ↔
      (column.schemaType functions).outcome = .ok (some type) := by
  unfold checkedType?
  cases (column.schemaType functions).outcome <;> simp

theorem Column.checkedType?_isSpellable {column : Column} {functions : List String}
    {type : DartType} (h : column.checkedType? functions = some type) : type.isSpellable := by
  obtain ⟨_, _, hmade, _⟩ := column.schemaType_eq_ok (checkedType?_eq_some_iff.mp h)
  exact (hmade type rfl).2.1

/-- Of all that happens while the check of a column is read, only the type of the column itself
    is entered for a column. -/
theorem Column.filterMap_assignment? {column : Column} {functions : List String}
    {result : Option DartType} (h : (column.schemaType functions).outcome = .ok result) :
    (column.schemaType functions).trace.filterMap Event.assignment? =
      (column.assignment? functions).toList := by
  obtain ⟨inner, hinner, _, htrace⟩ := column.schemaType_eq_ok h
  have hnone : inner.filterMap Event.assignment? = [] := by
    rw [List.filterMap_eq_nil_iff]
    intro event hevent
    cases event with
    | column label type => exact absurd (hinner _ hevent) id
    | _ => rfl
  rw [htrace, List.filterMap_append, hnone, assignment?, checkedType?, h]
  cases result <;> rfl

namespace Generator

variable {generator : Generator} {snapshot : Snapshot} {resolution : Resolution}

/-- The table of column types holds what the checks of the columns enter, one after the
    other. -/
theorem Run.columns_eq (run : Run generator snapshot resolution) :
    resolution.registry.columns =
      Table.ofList (snapshot.columns.filterMap (Column.assignment? generator.functions)) := by
  have hassigned : (generator.events snapshot.columns).filterMap Event.assignment? =
      snapshot.columns.filterMap (Column.assignment? generator.functions) := by
    rw [events, List.filterMap_flatMap, List.filterMap_eq_flatMap_toList]
    refine List.flatMap_congr fun column hcolumn => ?_
    obtain ⟨result, hresult⟩ := run.columns column hcolumn
    exact Column.filterMap_assignment? hresult
  rw [run.registry, Registry.foldl_record_columns, hassigned, run.settled.columns_eq.1]
  rfl

/-- All that the checks of columns settle is made from their schemas. -/
theorem Run.fromSchema (run : Run generator snapshot resolution) :
    ∀ type ∈ resolution.registry.schemaTypes, type.FromSchema := by
  intro type htype
  rw [run.schemaTypes_eq] at htype
  obtain ⟨event, hevent, hsettled⟩ := List.mem_filterMap.mp htype
  obtain ⟨column, hcolumn, hevent⟩ := List.mem_flatMap.mp hevent
  obtain ⟨result, hresult⟩ := run.columns column hcolumn
  obtain ⟨inner, hinner, hmade, htrace⟩ := column.schemaType_eq_ok hresult
  rw [htrace] at hevent
  rcases List.mem_append.mp hevent with hevent | hevent
  · have hinnerEvent := hinner event hevent
    cases event with
    | noted => cases hsettled
    | derived =>
      cases hsettled
      exact hinnerEvent
    | column => exact absurd hinnerEvent id
  · obtain ⟨own, hown, rfl⟩ := List.mem_map.mp hevent
    cases hsettled
    exact (hmade type (Option.mem_toList.mp hown)).1

theorem Run.mem_schemaTypes (run : Run generator snapshot resolution) {key : Json.Key}
    {type : DartType} (h : resolution.registry.columns.find? key = some type) :
    type ∈ resolution.registry.schemaTypes := by
  rw [run.columns_eq] at h
  obtain ⟨label, hmem, _⟩ := Table.mem_of_find?_ofList h
  obtain ⟨column, hcolumn, hassigned⟩ := List.mem_filterMap.mp hmem
  obtain ⟨_, hchecked, heq⟩ := Option.map_eq_some_iff.mp hassigned
  cases heq
  obtain ⟨inner, _, _, htrace⟩ :=
    column.schemaType_eq_ok (Column.checkedType?_eq_some_iff.mp hchecked)
  rw [run.schemaTypes_eq]
  refine List.mem_filterMap.mpr ⟨.column (labelOf column.name) type, ?_, rfl⟩
  refine List.mem_flatMap.mpr ⟨column, hcolumn, ?_⟩
  rw [htrace]
  simp

end Generator

theorem isSome_find?_assignments {functions : List String} {columns : List Column} {name : Json}
    (hname : ∃ text, name = .text text)
    (hnames : ∀ column ∈ columns, ∃ text, column.name = .text text) :
    ((Table.ofList (columns.filterMap (Column.assignment? functions))).find?
        (labelOf name).key).isSome ↔
      ∃ column ∈ columns, column.name = name ∧ (column.checkedType? functions).isSome := by
  rw [Table.find?_isSome_iff, Table.mem_keys_ofList]
  constructor
  · rintro ⟨assignment, hmem, hkey⟩
    obtain ⟨column, hcolumn, hassigned⟩ := List.mem_filterMap.mp hmem
    obtain ⟨type, htype, rfl⟩ := Option.map_eq_some_iff.mp hassigned
    exact ⟨column, hcolumn, (labelOf_text_inj (hnames column hcolumn) hname).mp hkey,
      Option.isSome_iff_exists.mpr ⟨type, htype⟩⟩
  · rintro ⟨column, hcolumn, rfl, hsome⟩
    obtain ⟨type, htype⟩ := Option.isSome_iff_exists.mp hsome
    refine ⟨(labelOf column.name, type), List.mem_filterMap.mpr ⟨column, hcolumn, ?_⟩, rfl⟩
    rw [Column.assignment?, htype]
    rfl

/-- What the checks of some columns enter under a name does not change with a column whose check
    enters nothing for it, or before one whose check does. -/
theorem find?_assignments_without {functions : List String} {before after : List Column}
    {other : Column} {name : Json} (hname : ∃ text, name = .text text)
    (hotherName : ∃ text, other.name = .text text)
    (hlaterNames : ∀ later ∈ after, ∃ text, later.name = .text text)
    (hhidden : (other.checkedType? functions).isSome → other.name = name →
      ∃ later ∈ after, later.name = name ∧ (later.checkedType? functions).isSome) :
    (Table.ofList ((before ++ other :: after).filterMap (Column.assignment? functions))).find?
        (labelOf name).key =
      (Table.ofList ((before ++ after).filterMap (Column.assignment? functions))).find?
        (labelOf name).key := by
  rw [List.filterMap_append, List.filterMap_append, ← List.singleton_append, List.filterMap_append,
    Table.find?_ofList_append, Table.find?_ofList_append, Table.find?_ofList_append]
  -- What later columns enter stays in any case. Where they enter nothing, neither does the other.
  cases hafter : (Table.ofList (after.filterMap (Column.assignment? functions))).find?
      (labelOf name).key with
  | some type => rfl
  | none =>
    have hother : (Table.ofList ([other].filterMap (Column.assignment? functions))).find?
        (labelOf name).key = none := by
      by_contra hfound
      obtain ⟨_, hmem, hsame, hsome⟩ :=
        (isSome_find?_assignments hname (by simpa using hotherName)).mp
          (Option.isSome_iff_ne_none.mpr hfound)
      cases List.mem_singleton.mp hmem
      have hlater := (isSome_find?_assignments hname hlaterNames).mpr (hhidden hsome hsame)
      rw [hafter] at hlater
      cases hlater
    rw [hother]
    rfl

namespace Column

variable {column : Column} {registry other : Registry}

/-- What a schema gave the name of a column that holds JSON comes before what is registered for
    its format. -/
theorem baseType_eq (htyped : column.WellTyped) (registry : Registry) :
    column.baseType registry =
      .ok ((if column.holdsJson then registry.columns.find? (labelOf column.name).key
        else none).getD ((registry.findNamed? column.format.spelling).getD .dynamic)) := by
  obtain ⟨name, hname⟩ := htyped.name
  obtain ⟨format, hformat⟩ := htyped.format
  have hcolumn : registry.column? column.name =
      .ok (registry.columns.find? (labelOf column.name).key) := by
    rw [hname]
    rfl
  have hfind : registry.find? column.format =
      .ok (registry.findNamed? column.format.spelling) := by
    rw [hformat]
    exact Registry.find?_text format
  unfold baseType
  rw [hcolumn, hfind]
  cases column.holdsJson with
  | false => rfl
  | true => cases registry.columns.find? (labelOf column.name).key <;> rfl

/-- A column that no schema types has what is registered for its format. -/
theorem baseType_eq_of_plain (htyped : column.WellTyped)
    (hplain : column.holdsJson → registry.column? column.name = .ok none) :
    column.baseType registry =
      .ok ((registry.findNamed? column.format.spelling).getD .dynamic) := by
  rw [baseType_eq htyped]
  split
  · next hjson =>
    obtain ⟨name, hname⟩ := htyped.name
    have hnone := hplain hjson
    rw [hname] at hnone ⊢
    rw [show registry.columns.find? (labelOf (.text name)).key = none from Except.ok.inj hnone]
    rfl
  · rfl

/-- A column has the same type in two registries that agree on its format and, if it holds
    JSON, on its name. -/
theorem exists_type (htyped : column.WellTyped)
    (hformat : registry.findNamed? column.format.spelling =
      other.findNamed? column.format.spelling)
    (hname : column.holdsJson → registry.columns.find? (labelOf column.name).key =
      other.columns.find? (labelOf column.name).key) (forInsert : Bool) :
    ∃ type, column.type registry forInsert = .ok type ∧ column.type other forInsert = .ok type := by
  have hsame : column.baseType registry = column.baseType other := by
    rw [baseType_eq htyped, baseType_eq htyped, hformat]
    split
    · next hjson => rw [hname hjson]
    · rfl
  unfold type
  rw [hsame, baseType_eq htyped]
  exact ⟨_, rfl, rfl⟩

end Column

/-- What is true of the targets of catalog types, of what checks give and of what may be
    anything, whether null is allowed or not, is true of the type of each column. -/
theorem Generator.Run.columnType_keeps {generator : Generator} {snapshot : Snapshot}
    {resolution : Resolution} (run : Run generator snapshot resolution) (good : DartType → Prop)
    (hdynamic : good .dynamic) (horNull : ∀ type, good type → good type.orNull)
    (hcatalog : ∀ name target, run.catalog.findNamed? name = some target → good target)
    (hchecked : ∀ other ∈ snapshot.columns, ∀ type,
      other.checkedType? generator.functions = some type → good type)
    {column : Column} (hcolumn : column.WellTyped) {forInsert : Bool} {type : DartType}
    (htype : column.type resolution.registry forInsert = .ok type) : good type := by
  have hformat : good ((resolution.registry.findNamed? column.format.spelling).getD .dynamic) := by
    rw [run.findNamed?_eq]
    cases htarget : run.catalog.findNamed? column.format.spelling with
    | none => exact hdynamic
    | some target => exact hcatalog _ target htarget
  have hbase : good ((if column.holdsJson then
      resolution.registry.columns.find? (labelOf column.name).key else none).getD
        ((resolution.registry.findNamed? column.format.spelling).getD .dynamic)) := by
    cases hoverride : if column.holdsJson then
      resolution.registry.columns.find? (labelOf column.name).key else none with
    | none => exact hformat
    | some override =>
      obtain ⟨_, hfind⟩ := Option.ite_none_right_eq_some.mp hoverride
      rw [run.columns_eq] at hfind
      obtain ⟨label, hmem, _⟩ := Table.mem_of_find?_ofList hfind
      obtain ⟨other, hother, hassigned⟩ := List.mem_filterMap.mp hmem
      obtain ⟨_, hgiven, heq⟩ := Option.map_eq_some_iff.mp hassigned
      cases heq
      exact hchecked other hother _ hgiven
  rw [Column.type, Column.baseType_eq hcolumn, ok_bind] at htype
  cases htype
  split
  · exact horNull _ hbase
  · exact hbase

end DartModels
