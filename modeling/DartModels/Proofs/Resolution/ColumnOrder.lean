import DartModels.Proofs.Catalog.Grouping
import DartModels.Proofs.Catalog.Placement
import DartModels.Proofs.Resolution.Independence
import DartModels.Proofs.Resolution.Spelling

open Relation (TransGen)

namespace DartModels

open Catalog (Required RefersTo labelOf labelOf_text_inj)
open Schema (Event)

theorem holdsJson_of_assignment? {functions : List String} {column : Column}
    {assignment : Label × DartType} (h : column.assignment? functions = some assignment) :
    column.holdsJson ∧ assignment.1 = labelOf column.name := by
  obtain ⟨type, hchecked, rfl⟩ := Option.map_eq_some_iff.mp h
  refine ⟨?_, rfl⟩
  by_contra hjson
  rw [Column.checkedType?_eq_some_iff, Column.schemaType, if_neg (by simp [hjson])] at hchecked
  cases hchecked

/-- What the checks of columns enter depends on the order of the columns only if two columns
    that hold JSON share their name. -/
theorem find?_assignments_perm {functions : List String} {columns others : List Column}
    (hcolumns : ∀ column ∈ columns, column.WellTyped)
    (hnames : ((columns.filter Column.holdsJson).map (·.name)).Nodup)
    (hperm : others.Perm columns) (key : Json.Key) :
    (Table.ofList (others.filterMap (Column.assignment? functions))).find? key =
      (Table.ofList (columns.filterMap (Column.assignment? functions))).find? key := by
  have hsub : ((columns.filterMap (Column.assignment? functions)).map (·.1.key)).Sublist
      (((columns.filter Column.holdsJson).map (·.name)).map fun name => (labelOf name).key) := by
    clear hcolumns hnames hperm
    induction columns with
    | nil => exact .slnil
    | cons column rest ih =>
      cases hassigned : column.assignment? functions with
      | none =>
        rw [List.filterMap_cons_none hassigned]
        exact ih.trans (((List.sublist_cons_self column rest).filter _).map _ |>.map _)
      | some assignment =>
        obtain ⟨hjson, hlabel⟩ := holdsJson_of_assignment? hassigned
        rw [List.filterMap_cons_some hassigned, List.filter_cons_of_pos hjson, List.map_cons,
          List.map_cons, List.map_cons, hlabel]
        exact ih.cons_cons _
  have htexts : ∀ name ∈ (columns.filter Column.holdsJson).map (·.name),
      ∃ text, name = .text text := by
    intro name hname
    obtain ⟨column, hcolumn, rfl⟩ := List.mem_map.mp hname
    exact (hcolumns column (List.mem_filter.mp hcolumn).1).name
  exact Table.find?_ofList_perm (.sublist hsub (hnames.map_on fun name hname other hother =>
    (labelOf_text_inj (htexts name hname) (htexts other hother)).mp)) (hperm.filterMap _) key

namespace Generator

variable {generator : Generator} {first : Snapshot} {columns : List Column}
  {resolution other : Resolution}

/-- A part of an aligned set that is closed under references is aligned. -/
theorem Aligned.restrict {second : Snapshot} {run : Run generator first resolution}
    {otherRun : Run generator second other} {set part : CatalogType → Prop}
    (haligned : Aligned run otherRun set) (hsub : ∀ type, part type → set type)
    (hclosed : ∀ type, part type → ∀ needed ∈ first.types, RefersTo type needed → part needed) :
    Aligned run otherRun part where
  required type htype := haligned.required type (hsub type htype)
  otherRequired type htype := haligned.otherRequired type (hsub type htype)
  closed := hclosed
  alike type htype := haligned.alike type (hsub type htype)

section

variable (htyped : first.WellTyped) (hids : (first.types.map (·.id)).Nodup)
  (hnames : (first.types.map (·.name)).Nodup) (hperm : columns.Perm first.columns)
include htyped hids hnames hperm

omit hids hnames in
theorem wellTyped_perm : { first with columns }.WellTyped :=
  { htyped with columns := fun column hcolumn => htyped.columns column (hperm.mem_iff.mp hcolumn) }

/-- Where a type is stuck, it is so in every order of the columns: its elements are settled before
    it in all orders or in none. -/
theorem not_stuckIn_perm {required : List CatalogType}
    (hrequires : (Catalog.requiredTypes first.types first.columns).outcome = .ok required)
    (otherRun : Run generator { first with columns } other) :
    ¬StuckIn generator.locales required := by
  intro hstuck
  obtain @⟨before, type, notes, registry, declarables, hbefore, htarget, after⟩ := hstuck
  have hothers := wellTyped_perm htyped hperm
  have htypes : Catalog.Unambiguous first.types := ⟨htyped.catalog, hids, hnames⟩
  have hneeds : Required first.types first.columns type :=
    (Catalog.mem_requiredTypes_iff htyped.catalog hids hnames htyped.formats hrequires).mp (by simp)
  have hotherNeeds : Required first.types columns type := by rwa [Catalog.required_perm hperm]
  have htype := htyped.types type hneeds.mem
  obtain ⟨-, hstuck⟩ := Mapping.stuck_of_target htype htarget
  obtain ⟨otherBefore, otherAfter, hrequired⟩ := List.append_of_mem
    ((Catalog.mem_requiredTypes_iff htyped.catalog hids hnames hothers.formats
      otherRun.requires).mpr hotherNeeds)
  obtain ⟨step⟩ := otherRun.exists_step hrequired
  -- The other run maps the type as an array, so it settled the type's elements before it.
  obtain ⟨harray, target, helement⟩ :=
    hstuck.exists_element (Mapping.maps_of_target htype step.maps)
  obtain ⟨element, hmem, hname⟩ : ∃ element ∈ otherBefore, element.name = .text type.base := by
    by_contra hnone
    push Not at hnone
    rw [step.settled.findNamed?_eq_none hnone] at helement
    cases helement
  have hin : element ∈ first.types := otherRun.mem_types_of_before hothers hrequired hmem
  obtain ⟨typeName, htypeName⟩ := htype.name
  have hrefers : RefersTo type element := .inr <| by
    rw [htypeName, hname, Catalog.isArrayOf_text_iff]
    exact ⟨CatalogType.isArray_eq htypeName ▸ harray, (CatalogType.base_eq htypeName).symm⟩
  have hotherNodup := otherRun.requiredTypes_nodup hothers
  have hdistinct : element.id ≠ type.id := by
    rw [hrequired, List.map_append, List.nodup_append] at hotherNodup
    exact hotherNodup.2.2 _ (List.mem_map_of_mem hmem) _ (by simp)
  -- So it does in this order of the columns, where the type is not stuck then.
  have hpair : [element, type].Sublist (before ++ type :: after) := by
    rw [Catalog.pair_sublist_requiredTypes_iff htyped.catalog hids hnames htyped.formats hrequires
      hneeds hin hdistinct hrefers, ← Catalog.required_perm hperm,
      ← Catalog.pair_sublist_requiredTypes_iff htyped.catalog hids hnames hothers.formats
        otherRun.requires hotherNeeds hin hdistinct hrefers, hrequired,
      Catalog.pair_sublist_iff_mem (hrequired ▸ hotherNodup.of_map)]
    exact hmem
  have hnodup := (Catalog.requiredTypes_subset htyped.catalog htyped.formats hrequires).1.of_map
  rw [Catalog.pair_sublist_iff_mem hnodup] at hpair
  obtain ⟨entry, hentry⟩ := hbefore.named hpair hname
  have hnone := hstuck.element harray
  rw [Registry.findNamed?, hentry] at hnone
  cases hnone

theorem stops_perm (hstops : ∃ failure, Stops generator first failure) :
    ∃ failure, Stops generator { first with columns } failure := by
  obtain ⟨failure, hstops⟩ := hstops
  cases hstops with
  | requires h =>
    have hcircle := (Catalog.requiredTypes_fails_iff htyped.catalog hids hnames htyped.formats).mp
      ⟨failure, h⟩
    rw [← Catalog.required_perm hperm] at hcircle
    have hformats : ∀ column ∈ columns, ∃ format, column.format = .text format :=
      fun column hcolumn => htyped.formats column (hperm.mem_iff.mp hcolumn)
    obtain ⟨failure, hfails⟩ :=
      (Catalog.requiredTypes_fails_iff htyped.catalog hids hnames hformats).mpr hcircle
    exact ⟨failure, .requires hfails⟩
  | type hrequires hstuck =>
    have hends := resolve_stops (wellTyped_perm htyped hperm) generator
    cases hresolve : generator.resolve { first with columns } with
    | error failure => exact ⟨failure, hends.of_eq_error hresolve⟩
    | ok resolution =>
      obtain ⟨run⟩ := hends.of_eq_ok hresolve
      exact absurd hstuck (not_stuckIn_perm htyped hids hnames hperm hrequires run)
  | column hcolumn h => exact ⟨_, .column (hperm.mem_iff.mpr hcolumn) h⟩
  | record htype hrecord hname =>
    refine ⟨_, .record (((hperm.flatMap_right _).filterMap _).mem_iff.mpr htype) hrecord hname⟩

theorem mem_requiredTypes_perm (run : Run generator first resolution)
    (otherRun : Run generator { first with columns } other) {type : CatalogType} :
    (type ∈ resolution.requiredTypes ↔ Required first.types first.columns type) ∧
      (type ∈ other.requiredTypes ↔ Required first.types first.columns type) := by
  have hothers := wellTyped_perm htyped hperm
  constructor
  · exact Catalog.mem_requiredTypes_iff htyped.catalog hids hnames htyped.formats run.requires
  · rw [← Catalog.required_perm hperm]
    exact Catalog.mem_requiredTypes_iff htyped.catalog hids hnames hothers.formats otherRun.requires

/-- The order of the columns decides when a type is settled, but not whether it is settled after
    the types that it refers to. -/
theorem aligned_perm (run : Run generator first resolution)
    (otherRun : Run generator { first with columns } other) :
    Aligned run otherRun (Required first.types first.columns) where
  required type htype := (mem_requiredTypes_perm htyped hids hnames hperm run otherRun).1.mpr htype
  otherRequired type htype :=
    (mem_requiredTypes_perm htyped hids hnames hperm run otherRun).2.mpr htype
  closed _ htype _ hneeded hrefers := htype.referred hneeded hrefers
  alike type htype needed hneeded hrefers := by
    have hothers := wellTyped_perm htyped hperm
    by_cases hself : needed.id = type.id
    · obtain rfl := List.inj_on_of_nodup_map hids hneeded htype.mem hself
      have hnodup := (run.requiredTypes_nodup htyped).of_map
      have hotherNodup := (otherRun.requiredTypes_nodup hothers).of_map
      exact iff_of_false (fun hpair => by simpa using hnodup.sublist hpair)
        fun hpair => by simpa using hotherNodup.sublist hpair
    · have htype' : Required first.types columns type := by rwa [Catalog.required_perm hperm]
      rw [Catalog.pair_sublist_requiredTypes_iff htyped.catalog hids hnames htyped.formats
          run.requires htype hneeded hself hrefers,
        Catalog.pair_sublist_requiredTypes_iff htyped.catalog hids hnames hothers.formats
          otherRun.requires htype' hneeded hself hrefers, Catalog.required_perm hperm]

/-- Each id has the same target whatever the order of the columns. -/
theorem find?_perm (run : Run generator first resolution)
    (otherRun : Run generator { first with columns } other) (id : Int) :
    resolution.registry.find? (.int id) = other.registry.find? (.int id) := by
  have hothers := wellTyped_perm htyped hperm
  have hmem (type : CatalogType) :
      (type ∈ resolution.requiredTypes ↔ _) ∧ (type ∈ other.requiredTypes ↔ _) :=
    mem_requiredTypes_perm htyped hids hnames hperm run otherRun
  rw [Registry.find?_int, Registry.find?_int]
  by_cases hexists : ∃ type, Required first.types first.columns type ∧ type.id = .int id
  · obtain ⟨type, htype, hid⟩ := hexists
    rw [← hid, (aligned_perm htyped hids hnames hperm run otherRun).withId?_eq htyped hothers
      ⟨htyped.catalog, hids, hnames⟩ rfl htype]
  · have hnone : .int id ∉ resolution.requiredTypes.map (·.id) := fun hfound => by
      obtain ⟨type, htype, hid⟩ := List.mem_map.mp hfound
      exact hexists ⟨type, (hmem type).1.mp htype, hid⟩
    have hotherNone : .int id ∉ other.requiredTypes.map (·.id) := fun hfound => by
      obtain ⟨type, htype, hid⟩ := List.mem_map.mp hfound
      exact hexists ⟨type, (hmem type).2.mp htype, hid⟩
    rw [run.withId?_eq, otherRun.withId?_eq, Registry.withId?, Registry.withId?,
      run.settled.byId_find?_eq_none ⟨id, rfl⟩ hnone,
      otherRun.settled.byId_find?_eq_none ⟨id, rfl⟩ hotherNone]

/-- A column has the same type whatever the order of the columns. -/
theorem columnType_perm (hjson : ((first.columns.filter Column.holdsJson).map (·.name)).Nodup)
    (run : Run generator first resolution)
    (otherRun : Run generator { first with columns } other) {column : Column}
    (hcolumn : column ∈ first.columns) (forInsert : Bool) :
    ∃ type, column.type resolution.registry forInsert = .ok type ∧
      column.type other.registry forInsert = .ok type ∧ type.isSpellable := by
  have hothers := wellTyped_perm htyped hperm
  have hcolumnTyped := htyped.columns column hcolumn
  have haligned : Aligned run otherRun (Required first.types [column]) :=
    (aligned_perm htyped hids hnames hperm run otherRun).restrict
      (fun type htype => htype.mono (by simpa using hcolumn))
      fun type htype needed hneeded hrefers => htype.referred hneeded hrefers
  obtain ⟨type, htype, hother⟩ := Column.exists_type hcolumnTyped
    (haligned.findNamed?_format_eq htyped hothers ⟨htyped.catalog, hids, hnames⟩
      hcolumnTyped.format)
    (fun _ => by
      rw [run.columns_eq, otherRun.columns_eq]
      exact (find?_assignments_perm htyped.columns hjson hperm _).symm) forInsert
  exact ⟨type, htype, hother, run.isSpellable_columnType hcolumnTyped htype⟩

end

/-- As long as columns of one table have distinct names, and so have all columns that hold JSON,
    their order counts neither for whether a run ends well nor for the types that it requires,
    the target of each id and the row classes of tables and views. -/
theorem resolve_columns_perm (generator : Generator) {snapshot : Snapshot} {columns : List Column}
    (htyped : snapshot.WellTyped) (hids : (snapshot.types.map (·.id)).Nodup)
    (hnames : (snapshot.types.map (·.name)).Nodup)
    (hcolumns : (snapshot.columns.map fun column => (column.tableId, column.name)).Nodup)
    (hjson : ((snapshot.columns.filter Column.holdsJson).map (·.name)).Nodup)
    (hperm : columns.Perm snapshot.columns) :
    ((∃ failure, generator.resolve snapshot = .error failure) ↔
        ∃ failure, generator.resolve { snapshot with columns } = .error failure) ∧
      ∀ resolution other, generator.resolve snapshot = .ok resolution →
        generator.resolve { snapshot with columns } = .ok other →
        (∀ type, type ∈ resolution.requiredTypes ↔ type ∈ other.requiredTypes) ∧
        (∀ id, resolution.registry.find? (.int id) = other.registry.find? (.int id)) ∧
        ∃ groups otherGroups, Snapshot.columnsByTable snapshot.columns = .ok groups ∧
          Snapshot.columnsByTable columns = .ok otherGroups ∧
          ∀ relation ∈ snapshot.tables ++ snapshot.views, ∀ withInsert, ∃ rows otherRows text,
            Snapshot.columnsOf groups relation = .ok rows ∧
            Snapshot.columnsOf otherGroups relation = .ok otherRows ∧
            Dart.rowSource relation rows resolution.registry withInsert = .ok text ∧
            Dart.rowSource relation otherRows other.registry withInsert = .ok text := by
  have hothers := wellTyped_perm htyped hperm
  constructor
  · rw [resolve_fails_iff htyped, resolve_fails_iff hothers]
    exact ⟨stops_perm htyped hids hnames hperm, stops_perm hothers hids hnames hperm.symm⟩
  · intro resolution other hresolve hother
    obtain ⟨run⟩ := (resolve_ends htyped generator).of_eq_ok hresolve
    obtain ⟨otherRun⟩ := (resolve_ends hothers generator).of_eq_ok hother
    refine ⟨fun type => ?_, find?_perm htyped hids hnames hperm run otherRun, ?_⟩
    · obtain ⟨hmem, hotherMem⟩ := mem_requiredTypes_perm htyped hids hnames hperm run otherRun
      exact hmem.trans hotherMem.symm
    · obtain ⟨groups, otherGroups, hgroups, hotherGroups, hof⟩ :=
        Snapshot.columnsOf_perm htyped.columns hcolumns hperm
      refine ⟨groups, otherGroups, hgroups, hotherGroups, fun relation hrelation withInsert => ?_⟩
      have hrelationTyped : relation.WellTyped :=
        (List.mem_append.mp hrelation).elim (htyped.tables relation) (htyped.views relation)
      obtain ⟨rows, hrows, hotherRows, hsub⟩ := hof relation hrelationTyped
      obtain ⟨text, htext, hotherText⟩ := Dart.exists_rowSource hrelationTyped
        (fun column hcolumn => htyped.columns column (hsub column hcolumn))
        (fun column hcolumn => columnType_perm htyped hids hnames hperm hjson run otherRun
          (hsub column hcolumn)) withInsert
      exact ⟨rows, rows, text, hrows, hotherRows, htext, hotherText⟩

def grounds : Column := { tableId := .int 1, name := .text "grounds", format := .text "__corner" }

def border : Column := { tableId := .int 1, name := .text "border", format := .text "outline" }

def corners : CatalogType := { id := .int 1, name := .text "_corner" }

def cornerGrid : CatalogType := { id := .int 2, name := .text "__corner" }

def outline : CatalogType :=
  { id := .int 3, name := .text "outline", attributes := [⟨.text "corners", .int 2⟩] }

def parcel : Relation := { id := .int 1, name := .text "parcel" }

def land : Snapshot :=
  { schemas := []
    tables := [parcel]
    views := []
    columns := [grounds, border]
    types := [corners, cornerGrid, outline] }

/-- The class of a table is the same with its columns turned around, though the types are
    settled in another order. -/
theorem resolve_land_perm :
    ∃ resolution other groups otherGroups rows otherRows text,
      ({} : Generator).resolve land = .ok resolution ∧
      ({} : Generator).resolve { land with columns := [border, grounds] } = .ok other ∧
      resolution.registry.find? (.int 2) = other.registry.find? (.int 2) ∧
      Snapshot.columnsByTable land.columns = .ok groups ∧
      Snapshot.columnsByTable [border, grounds] = .ok otherGroups ∧
      Snapshot.columnsOf groups parcel = .ok rows ∧
      Snapshot.columnsOf otherGroups parcel = .ok otherRows ∧
      Dart.rowSource parcel rows resolution.registry true = .ok text ∧
      Dart.rowSource parcel otherRows other.registry true = .ok text := by
  have htyped : land.WellTyped := by
    constructor
    · simp [land]
    · simpa [land] using ⟨⟨1, rfl⟩, ⟨_, rfl⟩⟩
    · simp [land]
    · simpa [land] using ⟨⟨⟨1, rfl⟩, ⟨_, rfl⟩, ⟨_, rfl⟩, .inl rfl⟩,
        ⟨⟨1, rfl⟩, ⟨_, rfl⟩, ⟨_, rfl⟩, .inl rfl⟩⟩
    · simpa [land] using
        ⟨by constructor <;> simp [corners], by constructor <;> simp [cornerGrid],
          by constructor <;> simp [outline]⟩
  obtain ⟨resolution, hresolve⟩ : ∃ resolution,
      ({} : Generator).resolve land = .ok resolution := ⟨_, rfl⟩
  obtain ⟨other, hother⟩ : ∃ other,
      ({} : Generator).resolve { land with columns := [border, grounds] } = .ok other := ⟨_, rfl⟩
  obtain ⟨_, hsame⟩ := resolve_columns_perm {} htyped
    (by simp [land, corners, cornerGrid, outline])
    (by simp [land, corners, cornerGrid, outline])
    (by simp [land, grounds, border]) (by simp [land, grounds, border, Column.holdsJson])
    (List.Perm.swap grounds border [])
  obtain ⟨_, hfind, groups, otherGroups, hgroups, hotherGroups, hrows⟩ :=
    hsame resolution other hresolve hother
  obtain ⟨rows, otherRows, text, hof, hotherOf, htext, hotherText⟩ :=
    hrows parcel (by simp [land]) true
  exact ⟨resolution, other, groups, otherGroups, rows, otherRows, text, hresolve, hother, hfind 2,
    hgroups, hotherGroups, hof, hotherOf, htext, hotherText⟩

end Generator
end DartModels
