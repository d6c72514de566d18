import DartModels.Proofs.Catalog.Grouping
import DartModels.Proofs.Dart.RecordLines
import DartModels.Proofs.Resolution.Spelling
import DartModels.Proofs.Resolution.WellFormed

namespace DartModels

namespace Snapshot

open Catalog (labelOf label_eq_ok_iff)
open Sorting (Ascending Rearranged)

variable {columns sorted group : List Column} {groups : Table (List Column)}

/-- The columns that belong to a relation, as they come. -/
def ofRelation (columns : List Column) (id : Json) : List Column :=
  columns.filter fun column => id.equals column.tableId

/-- A list has the columns of a relation by name, and those of one name as they come. -/
structure IsGroup (columns : List Column) (id : Json) (group : List Column) : Prop where
  ascending : Ascending (·.name.spelling) group
  rearranged : Rearranged (·.name.spelling) group (ofRelation columns id)

theorem IsGroup.mem {id : Json} (h : IsGroup columns id group) {column : Column}
    (hcolumn : column ∈ group) : column ∈ columns :=
  (List.mem_filter.mp (h.rearranged.perm.mem_iff.mp hcolumn)).1

section

variable (hids : ∀ column ∈ columns, ∃ id, column.tableId = .int id)
include hids

theorem filter_key_eq_ofRelation {id : Json} (hid : id.key?.isSome) :
    columns.filter (fun column => (labelOf column.tableId).key = (labelOf id).key) =
      ofRelation columns id := by
  obtain ⟨key, hkey⟩ := Option.isSome_iff_exists.mp hid
  apply List.filter_congr
  intro column hcolumn
  obtain ⟨number, hnumber⟩ := hids column hcolumn
  have hlabel : (labelOf id).key = key := by simp [labelOf, hkey]
  have hcolumnLabel : (labelOf (.int number)).key = .number number 0 := rfl
  rw [hnumber, Catalog.equals_int, hkey, hlabel, hcolumnLabel, Bool.eq_iff_iff]
  simpa using eq_comm

variable (hascending : Ascending (·.name.spelling) sorted)
  (hrearranged : Rearranged (·.name.spelling) sorted columns) (hgrouped : Grouped groups sorted)
include hascending hrearranged hgrouped

/-- What is found for a relation are its columns by name. -/
theorem isGroup_find? {id : Json} (hid : id.key?.isSome) :
    IsGroup columns id ((groups.find? (labelOf id).key).getD []) := by
  rw [hgrouped.find?]
  constructor
  · exact hascending.filter _
  · rw [← filter_key_eq_ofRelation hids hid]
    exact hrearranged.filter _

theorem isGroup_columnsOf {relation : Relation} (hgroup : columnsOf groups relation = .ok group) :
    IsGroup columns relation.id group := by
  obtain ⟨label, hlabel, hfound⟩ := bind_eq_ok_iff.mp hgroup
  obtain ⟨hid, rfl⟩ := (label_eq_ok_iff _ _).mp hlabel
  cases hfound
  exact isGroup_find? hids hascending hrearranged hgrouped hid

theorem find?_tableId {column : Column} (hcolumn : column ∈ columns) :
    ∃ key group, column.tableId.key? = some key ∧ groups.find? key = some group ∧
      IsGroup columns column.tableId group := by
  obtain ⟨id, hid⟩ := hids column hcolumn
  have hkey : column.tableId.key? = some (labelOf column.tableId).key := by rw [hid]; rfl
  have hmem : (labelOf column.tableId).key ∈ groups.keys :=
    (hgrouped.mem_keys _).mpr ⟨column, hrearranged.perm.mem_iff.mpr hcolumn, rfl⟩
  obtain ⟨group, hgroup⟩ := Option.isSome_iff_exists.mp ((groups.find?_isSome_iff _).mpr hmem)
  have hfound : IsGroup columns column.tableId _ :=
    isGroup_find? hids hascending hrearranged hgrouped (by simp [hkey])
  rw [hgroup] at hfound
  exact ⟨_, group, hkey, hgroup, hfound⟩

end

end Snapshot

namespace Dart

variable {relation : Relation} {columns group : List Column} {registry : Registry}
  {withInsert : Bool} {text : String}

/-- The declaration of the field that holds a column. -/
def IsFieldOf (registry : Registry) (column : Column) (field : String) : Prop :=
  ∃ type, column.type registry false = .ok type ∧
    field = "  final " ++ type.typeName ++ " " ++ propertyName column.name.spelling ++ ";"

/-- The class of a relation's rows has one field for each of its columns, by name. -/
structure IsRowOf (columns : List Column) (registry : Registry) (relation : Relation)
    (row : RowClass) : Prop where
  relation_eq : row.relation = relation
  group : Snapshot.IsGroup columns relation.id (row.columns.map Prod.fst)
  fields : List.Forall₂ (IsFieldOf registry) (row.columns.map Prod.fst) row.record.fields

/-- The type of each column is written on one line. -/
def HasLineTypes (columns : List Column) (registry : Registry) : Prop :=
  ∀ column ∈ columns, ∀ forInsert type, column.type registry forInsert = .ok type →
    IsLine type.typeName

/-- The source text of such a class. The lines in it that declare fields are those of its fields,
    if no line feed in the name of a type makes further lines. -/
def IsRowSource (columns : List Column) (registry : Registry) (withInsert : Bool)
    (relation : Relation) (text : String) : Prop :=
  ∃ row : RowClass, IsRowOf columns registry relation row ∧ text = row.source withInsert ∧
    (HasLineTypes columns registry → fieldLines text = row.record.fields.map String.toList)

/-- A row class has the columns that it is made for, with the types of each. -/
theorem RowClass.ofColumns_eq_ok {row : RowClass}
    (hrow : ofColumns relation columns registry = .ok row) :
    row.relation = relation ∧ row.columns.map Prod.fst = columns ∧
      ∀ entry ∈ row.columns, entry.1.type registry false = .ok entry.2.1 ∧
        entry.1.type registry true = .ok entry.2.2 := by
  obtain ⟨typed, htyped, hmade⟩ := bind_eq_ok_iff.mp hrow
  cases hmade
  have hentries : List.Forall₂ (fun entry column => (entry.1.type registry false = .ok entry.2.1 ∧
      entry.1.type registry true = .ok entry.2.2) ∧ entry.1 = column) typed columns := by
    apply List.Forall₂.flip
    refine (mapM_eq_ok_iff.mp htyped).imp fun column entry hentry => ?_
    obtain ⟨type, htype, hentry⟩ := bind_eq_ok_iff.mp hentry
    obtain ⟨insertType, hinsertType, hentry⟩ := bind_eq_ok_iff.mp hentry
    cases hentry
    exact ⟨⟨htype, hinsertType⟩, rfl⟩
  rw [List.forall₂_and_left] at hentries
  obtain ⟨htypes, hcolumns⟩ := hentries
  refine ⟨rfl, ?_, htypes⟩
  rwa [← List.forall₂_eq_eq_eq, List.forall₂_map_left_iff]

/-- The fields of a row class are those of its columns. -/
theorem RowClass.forall₂_fields {row : RowClass}
    (htypes : ∀ entry ∈ row.columns, entry.1.type registry false = .ok entry.2.1) :
    List.Forall₂ (IsFieldOf registry) (row.columns.map Prod.fst) row.record.fields := by
  rw [record, RecordClass.fields, List.map_map, List.forall₂_map_left_iff,
    List.forall₂_map_right_iff, List.forall₂_same]
  intro entry hentry
  exact ⟨entry.2.1, htypes entry hentry, rfl⟩

theorem isRowOf_ofColumns {row : RowClass}
    (hgroup : Snapshot.IsGroup columns relation.id group)
    (hrow : RowClass.ofColumns relation group registry = .ok row) :
    IsRowOf columns registry relation row := by
  obtain ⟨hrelation, hcolumns, htypes⟩ := RowClass.ofColumns_eq_ok hrow
  constructor
  · exact hrelation
  · rwa [hcolumns]
  · exact RowClass.forall₂_fields fun entry hentry => (htypes entry hentry).1

theorem isRowSource_rowSource (hgroup : Snapshot.IsGroup columns relation.id group)
    (htext : rowSource relation group registry withInsert = .ok text) :
    IsRowSource columns registry withInsert relation text := by
  obtain ⟨row, hrow, htext⟩ := bind_eq_ok_iff.mp htext
  split at htext
  · cases htext
    refine ⟨row, isRowOf_ofColumns hgroup hrow, rfl, fun hlines => ?_⟩
    obtain ⟨-, hcolumns, htypes⟩ := RowClass.ofColumns_eq_ok hrow
    refine RowClass.fieldLines_source (fun entry hentry => ?_) withInsert
    have hmem : entry.1 ∈ group := hcolumns ▸ List.mem_map_of_mem hentry
    exact ⟨hlines entry.1 (hgroup.mem hmem) _ _ (htypes entry hentry).1,
      hlines entry.1 (hgroup.mem hmem) _ _ (htypes entry hentry).2⟩
  · cases htext

/-- A generated file has a row class for each table and view, in their order. -/
theorem source_eq_ok {declarables : List DartType} {tables views : List Relation}
    {groups : Table (List Column)} (hgroups : ∀ relation group,
      Snapshot.columnsOf groups relation = .ok group →
        Snapshot.IsGroup columns relation.id group)
    (htext : source declarables tables views groups registry = .ok text) :
    ∃ declarations tableRows viewRows,
      text = "\n\n".intercalate (prelude :: (declarations ++ tableRows ++ viewRows)) ++ "\n" ∧
      List.Forall₂ (IsRowSource columns registry true) tables tableRows ∧
      List.Forall₂ (IsRowSource columns registry false) views viewRows := by
  have hrows (withInsert : Bool) (relation : Relation) (row : String)
      (hrow : (do rowSource relation (← Snapshot.columnsOf groups relation) registry withInsert) =
        .ok row) : IsRowSource columns registry withInsert relation row := by
    obtain ⟨group, hgroup, hrow⟩ := bind_eq_ok_iff.mp hrow
    exact isRowSource_rowSource (hgroups relation group hgroup) hrow
  obtain ⟨declarations, _, htext⟩ := bind_eq_ok_iff.mp htext
  obtain ⟨tableRows, htables, htext⟩ := bind_eq_ok_iff.mp htext
  obtain ⟨viewRows, hviews, htext⟩ := bind_eq_ok_iff.mp htext
  cases htext
  rw [Text.joined_eq_intercalate]
  exact ⟨declarations, tableRows, viewRows, rfl, (mapM_eq_ok_iff.mp htables).imp (hrows true),
    (mapM_eq_ok_iff.mp hviews).imp (hrows false)⟩

end Dart

/-- No name of a well-formed type has a line feed in it. -/
theorem DartType.WellFormed.isLine_typeName {type : DartType} (h : type.WellFormed) :
    Dart.IsLine type.typeName := by
  induction h with
  | @scalar keyword hkeyword =>
    simp only [keywords, List.mem_cons, List.not_mem_nil, or_false] at hkeyword
    rcases hkeyword with rfl | rfl | rfl | rfl | rfl <;> decide
  | temporal | interval => decide
  | list _ ih =>
    rw [typeName, Dart.isLine_append, Dart.isLine_append]
    exact ⟨⟨by decide, ih⟩, by decide⟩
  | nullable _ _ ih =>
    rw [typeName, Dart.isLine_append]
    exact ⟨ih, by decide⟩
  | map _ _ ihKey ihValue =>
    simp only [typeName, Dart.isLine_append]
    exact ⟨⟨⟨⟨by decide, ihKey⟩, by decide⟩, ihValue⟩, by decide⟩
  | enum | composite | object => exact Dart.isLine_className _

namespace Generator

variable {generator : Generator} {snapshot : Snapshot} {resolution : Resolution}

/-- With what a run settles, the rows of any relation can be written. -/
theorem Run.exists_rowSource (run : Run generator snapshot resolution) {relation : Relation}
    (hrelation : relation.WellTyped) {columns : List Column}
    (hcolumns : ∀ column ∈ columns, column.WellTyped) (withInsert : Bool) :
    ∃ text, Dart.rowSource relation columns resolution.registry withInsert = .ok text := by
  obtain ⟨text, htext, _⟩ := Dart.exists_rowSource hrelation hcolumns
    (fun column hcolumn forInsert => by
      obtain ⟨type, htype, hother⟩ :=
        Column.exists_type (hcolumns column hcolumn) rfl (fun _ => rfl) forInsert
      exact ⟨type, htype, hother, run.isSpellable_columnType (hcolumns column hcolumn) htype⟩)
    withInsert
  exact ⟨text, htext⟩

/-- The types that a run gives columns are written on one line. -/
theorem Run.hasLineTypes (run : Run generator snapshot resolution) (htyped : snapshot.WellTyped) :
    Dart.HasLineTypes snapshot.columns resolution.registry :=
  fun column hcolumn _ _ htype =>
    (run.wellFormed_columnType (htyped.columns column hcolumn) htype).isLine_typeName

end Generator

namespace Snapshot

open Catalog (labelOf)

variable {snapshot : Snapshot}

/-- Columns are grouped without loss: each one is in the group of its table as often as it is
    there and in no other group, and a group has its columns by name, those of one name as they
    come. So the row class of a relation has one field for each of its columns, and in what is
    written for it after a run there is one line with a field for each of these. -/
theorem columnsByTable_partitions
    (hnames : ∀ column ∈ snapshot.columns, ∃ name, column.name = .text name)
    (hids : ∀ column ∈ snapshot.columns, ∃ id, column.tableId = .int id) :
    ∃ groups, columnsByTable snapshot.columns = .ok groups ∧ groups.keys.Nodup ∧
      (∀ key, key ∈ groups.keys ↔ ∃ column ∈ snapshot.columns, column.tableId.key? = some key) ∧
      groups.values.flatten.Perm snapshot.columns ∧
      (∀ column ∈ snapshot.columns, ∃ key group, column.tableId.key? = some key ∧
        groups.find? key = some group ∧ IsGroup snapshot.columns column.tableId group) ∧
      (∀ (generator : Generator) resolution text,
        generator.render snapshot resolution = .ok text →
          ∃ tables views declarations tableRows viewRows,
            generator.select snapshot snapshot.tables = .ok tables ∧
            generator.select snapshot snapshot.views = .ok views ∧
            text = "\n\n".intercalate
              (Dart.prelude :: (declarations ++ tableRows ++ viewRows)) ++ "\n" ∧
            List.Forall₂ (Dart.IsRowSource snapshot.columns resolution.registry true) tables
              tableRows ∧
            List.Forall₂ (Dart.IsRowSource snapshot.columns resolution.registry false) views
              viewRows) ∧
      ∀ (generator : Generator) resolution, snapshot.WellTyped →
        generator.resolve snapshot = .ok resolution →
          Dart.HasLineTypes snapshot.columns resolution.registry ∧
          ∀ relation ∈ snapshot.tables ++ snapshot.views, ∀ withInsert, ∃ group text,
            columnsOf groups relation = .ok group ∧
            Dart.rowSource relation group resolution.registry withInsert = .ok text ∧
            Dart.IsRowSource snapshot.columns resolution.registry withInsert relation text := by
  obtain ⟨sorted, groups, hgroups, hascending, hrearranged, hgrouped⟩ :=
    columnsByTable_spec hnames hids
  have hof (relation : Relation) (group : List Column)
      (hgroup : columnsOf groups relation = .ok group) :
      IsGroup snapshot.columns relation.id group :=
    isGroup_columnsOf hids hascending hrearranged hgrouped hgroup
  refine ⟨groups, hgroups, hgrouped.nodup, fun key => ?_, hgrouped.perm.trans hrearranged.perm,
    fun column hcolumn => find?_tableId hids hascending hrearranged hgrouped hcolumn,
    fun generator resolution text hrender => ?_, fun generator resolution htyped hresolve => ?_⟩
  · rw [hgrouped.mem_keys]
    refine exists_congr fun column => ?_
    rw [hrearranged.perm.mem_iff, and_congr_right_iff]
    intro hcolumn
    obtain ⟨id, hid⟩ := hids column hcolumn
    rw [hid]
    simp [labelOf, Json.key?]
  · obtain ⟨tables, htables, hrender⟩ := bind_eq_ok_iff.mp hrender
    obtain ⟨views, hviews, hrender⟩ := bind_eq_ok_iff.mp hrender
    rw [hgroups, ok_bind] at hrender
    obtain ⟨declarations, tableRows, viewRows, htext, htableRows, hviewRows⟩ :=
      Dart.source_eq_ok hof hrender
    exact ⟨tables, views, declarations, tableRows, viewRows, htables, hviews, htext, htableRows,
      hviewRows⟩
  · obtain ⟨run⟩ := (Generator.resolve_ends htyped generator).of_eq_ok hresolve
    refine ⟨run.hasLineTypes htyped, fun relation hrelation withInsert => ?_⟩
    have hrelationTyped : relation.WellTyped :=
      (List.mem_append.mp hrelation).elim (htyped.tables relation) (htyped.views relation)
    have hgroup := columnsOf_eq groups hrelationTyped
    have hcolumns := hof relation _ hgroup
    obtain ⟨text, htext⟩ := run.exists_rowSource hrelationTyped
      (fun column hcolumn => htyped.columns column (hcolumns.mem hcolumn)) withInsert
    exact ⟨_, text, hgroup, htext, Dart.isRowSource_rowSource hcolumns htext⟩

def craneWidth : Column := { tableId := .int 2, name := .text "width", format := .text "int4" }

def berthWidth : Column := { tableId := .int 1, name := .text "width", format := .text "int4" }

def craneDepth : Column := { tableId := .int 2, name := .text "depth", format := .text "int4" }

def berthDepth : Column := { tableId := .int 1, name := .text "depth", format := .text "float8" }

def berthWidthText : Column := { tableId := .int 1, name := .text "width", format := .text "text" }

def harbor : Snapshot :=
  { schemas := []
    tables := [{ id := .int 1, name := .text "berth" }, { id := .int 2, name := .text "crane" }]
    views := []
    columns := [craneWidth, berthWidth, craneDepth, berthDepth, berthWidthText]
    types := [] }

/-- Two tables whose columns are mixed, with two columns of one name in one of them. -/
theorem columnsByTable_harbor :
    (∀ column ∈ harbor.columns, ∃ name, column.name = .text name) ∧
    (∀ column ∈ harbor.columns, ∃ id, column.tableId = .int id) ∧
    ∃ groups, columnsByTable harbor.columns = .ok groups ∧
      groups.values.flatten.Perm harbor.columns ∧
      groups.values.map (List.map fun column => (column.name.spelling, column.format.spelling)) =
        [[("depth", "int4"), ("width", "int4")],
          [("depth", "float8"), ("width", "int4"), ("width", "text")]] := by
  have hnames : ∀ column ∈ harbor.columns, ∃ name, column.name = .text name := by
    simp [harbor, craneWidth, berthWidth, craneDepth, berthDepth, berthWidthText]
  have hids : ∀ column ∈ harbor.columns, ∃ id, column.tableId = .int id := by
    simp [harbor, craneWidth, berthWidth, craneDepth, berthDepth, berthWidthText]
  obtain ⟨groups, hgroups, _, _, hperm, _⟩ := columnsByTable_partitions hnames hids
  refine ⟨hnames, hids, groups, hgroups, hperm, ?_⟩
  have hwritten : (columnsByTable harbor.columns).map (fun groups =>
      groups.values.map (List.map fun column => (column.name.spelling, column.format.spelling))) =
        .ok [[("depth", "int4"), ("width", "int4")],
          [("depth", "float8"), ("width", "int4"), ("width", "text")]] := by
    decide +kernel
  rw [hgroups] at hwritten
  exact Except.ok.inj hwritten

end Snapshot
end DartModels
