import DartModels.Proofs.Resolution.SchemaRecords
import DartModels.Proofs.Resolution.Settling
import DartModels.Proofs.Schema.Events

namespace DartModels

open Catalog (labelOf)

namespace Schema

/-- What an event enters for a column. -/
def Event.assignment? : Event → Option (Label × DartType)
  | .column label type => some (label, type)
  | _ => none

/-- The type that an event settles. -/
def Event.type? : Event → Option DartType
  | .noted _ => none
  | .derived _ type | .column _ type => some type

end Schema

open Schema (Event)

/-- The type that the check of a column gives it, if all goes well. -/
def Column.checkedType? (functions : List String) (column : Column) : Option DartType :=
  match (column.schemaType functions).outcome with
  | .ok result => result
  | .error _ => none

namespace Registry

variable {registry : Registry} {events : List Event}

/-- What JSON schemas give never touches a catalog type. -/
theorem foldl_record_catalog (events : List Event) (registry : Registry) :
    (events.foldl record registry).byId = registry.byId ∧
      (events.foldl record registry).byName = registry.byName := by
  induction events generalizing registry with
  | nil => exact ⟨rfl, rfl⟩
  | cons event rest ih => cases event <;> exact ih _

theorem foldl_record_columns (events : List Event) (registry : Registry) :
    (events.foldl record registry).columns =
      (events.filterMap Event.assignment?).foldl
        (fun table (label, type) => table.insert label type) registry.columns := by
  induction events generalizing registry with
  | nil => rfl
  | cons event rest ih => cases event <;> exact ih _

theorem foldl_record_schemaTypes (events : List Event) (registry : Registry) :
    (events.foldl record registry).schemaTypes =
      registry.schemaTypes ++ events.filterMap Event.type? := by
  induction events generalizing registry with
  | nil => exact (List.append_nil _).symm
  | cons event rest ih =>
    rw [List.foldl_cons, ih]
    cases event with
    | noted diagnostic => rfl
    | derived name type => simp [record, insertDerived, Event.type?]
    | column label type => simp [record, insertColumn, Event.type?]

end Registry

namespace Generator

variable {generator : Generator} {snapshot : Snapshot} {resolution : Resolution}

/-- All that the checks of some columns settle, in order. -/
def events (generator : Generator) (columns : List Column) : List Event :=
  columns.flatMap fun column => (column.schemaType generator.functions).trace

theorem foldlM_settleColumn_ends (generator : Generator) (columns : List Column)
    (registry : Registry) :
    Ends (fun after =>
        (∀ column ∈ columns, ∃ result,
          (column.schemaType generator.functions).outcome = .ok result) ∧
        after = (generator.events columns).foldl Registry.record registry)
      (fun failure => ∃ column ∈ columns, ∃ fault,
        (column.schemaType generator.functions).outcome = .error fault ∧ failure = .fault fault)
      (columns.foldlM generator.settleColumn registry).outcome := by
  induction columns generalizing registry with
  | nil => exact ⟨by simp, rfl⟩
  | cons column rest ih =>
    rw [List.foldlM_cons, Traced.outcome_bind]
    cases houtcome : (column.schemaType generator.functions).outcome with
    | error fault =>
      have hstep : (generator.settleColumn registry column).outcome = .error (.fault fault) := by
        simp [settleColumn, houtcome, Except.mapError, Except.map]
      rw [hstep]
      exact ⟨column, List.mem_cons_self, fault, houtcome, rfl⟩
    | ok result =>
      have hstep : (generator.settleColumn registry column).outcome =
          .ok ((column.schemaType generator.functions).trace.foldl Registry.record registry) := by
        simp [settleColumn, houtcome, Except.mapError, Except.map]
      rw [hstep, ok_bind]
      refine (ih _).imp (fun after hafter => ?_) fun failure hfailure => ?_
      · obtain ⟨hcolumns, rfl⟩ := hafter
        exact ⟨List.forall_mem_cons.mpr ⟨⟨result, houtcome⟩, hcolumns⟩, by simp [events]⟩
      · obtain ⟨other, hother, hfails⟩ := hfailure
        exact ⟨other, List.mem_cons_of_mem _ hother, hfails⟩

/-- The stages of a run that gives a resolution. -/
structure Run (generator : Generator) (snapshot : Snapshot) (resolution : Resolution) where
  /-- The registry before any column is settled. -/
  catalog : Registry
  declared : List DartType
  notes : List Diagnostic
  records : List SchemaRecord
  later : List Diagnostic
  requires : (Catalog.requiredTypes snapshot.types snapshot.columns).outcome =
    .ok resolution.requiredTypes
  settled : Settled generator.locales resolution.requiredTypes notes catalog declared
  columns : ∀ column ∈ snapshot.columns, ∃ result,
    (column.schemaType generator.functions).outcome = .ok result
  registry : resolution.registry =
    (generator.events snapshot.columns).foldl Registry.record catalog
  schemaRecords : resolution.registry.schemaRecords.outcome = .ok records
  declarables : resolution.declarables = declared ++ records.map SchemaRecord.toType
  diagnostics : resolution.diagnostics =
    (Catalog.requiredTypes snapshot.types snapshot.columns).trace ++ (notes ++ later)

/-- What stops a run: types that cannot be sorted, a type that is stuck, the check of a column
    that cannot be read, or a record from a check whose name is no text. -/
inductive Stops (generator : Generator) (snapshot : Snapshot) : Failure → Prop where
  | requires {failure : Failure}
      (h : (Catalog.requiredTypes snapshot.types snapshot.columns).outcome = .error failure) :
      Stops generator snapshot failure
  | type {required : List CatalogType}
      (h : (Catalog.requiredTypes snapshot.types snapshot.columns).outcome = .ok required)
      (hstuck : StuckIn generator.locales required) :
      Stops generator snapshot (.fault .tooManyDigits)
  | column {column : Column} {fault : Fault} (hcolumn : column ∈ snapshot.columns)
      (h : (column.schemaType generator.functions).outcome = .error fault) :
      Stops generator snapshot (.fault fault)
  | record {type : DartType} {record : SchemaRecord}
      (htype : type ∈ (generator.events snapshot.columns).filterMap Event.type?)
      (hrecord : record ∈ SchemaRecord.within type) (hname : ¬record.name.isText) :
      Stops generator snapshot (.fault .nameNotText)

/-- A run goes through all of its stages, unless it is stopped. -/
theorem resolve_stops (htyped : snapshot.WellTyped) (generator : Generator) :
    Ends (fun resolution => Nonempty (Run generator snapshot resolution))
      (Stops generator snapshot) (generator.resolve snapshot) := by
  unfold resolve
  cases hrequired : Catalog.requiredTypes snapshot.types snapshot.columns with
  | mk trace outcome =>
    cases outcome with
    | error failure => exact .requires (by rw [hrequired])
    | ok required =>
      obtain ⟨hids, hmem⟩ := Catalog.requiredTypes_subset htyped.catalog htyped.formats
        (by rw [hrequired] : _ = Except.ok required)
      obtain hstuck | ⟨notes, catalog, declared, hsettled⟩ := (settled_ends generator.locales
        (fun type htype => htyped.types type (hmem type htype)) hids).symm
      · obtain ⟨hbefore, htarget, after⟩ := hstuck
        simp only [Traced.mk_ok_bind, hbefore.foldlM_of_stuck htarget]
        exact .type (by rw [hrequired]) (.mk hbefore htarget after)
      simp only [Traced.mk_ok_bind, hsettled.foldlM_eq]
      have hcolumns := foldlM_settleColumn_ends generator snapshot.columns catalog
      generalize snapshot.columns.foldlM generator.settleColumn catalog = settled at hcolumns ⊢
      obtain ⟨columnNotes, outcome⟩ := settled
      cases outcome with
      | error failure =>
        obtain ⟨column, hcolumn, fault, hfault, rfl⟩ := hcolumns
        exact .column hcolumn hfault
      | ok registry =>
        obtain ⟨hsome, hregistry⟩ := hcolumns
        simp only [Traced.mk_ok_bind]
        cases hrecords : registry.schemaRecords with
        | mk conflicts outcome =>
          cases outcome with
          | error fault =>
            obtain ⟨rfl, type, htype, record, hrecord, hname⟩ :=
              Registry.schemaRecords_eq_error (congrArg Traced.outcome hrecords)
            rw [hregistry, Registry.foldl_record_schemaTypes, hsettled.columns_eq.2.2,
              List.nil_append] at htype
            exact .record htype hrecord hname
          | ok records =>
            exact ⟨{ catalog, declared, notes, records
                     later := columnNotes ++ (conflicts ++ [])
                     requires := by rw [hrequired]
                     settled := hsettled
                     columns := hsome
                     registry := hregistry
                     schemaRecords := congrArg Traced.outcome hrecords
                     declarables := rfl
                     diagnostics := by rw [hrequired]; rfl }⟩

/-- A run is stopped only by types that need each other in a circle or by a value of the wrong
    kind. -/
theorem resolve_ends (htyped : snapshot.WellTyped) (generator : Generator) :
    Ends (fun resolution => Nonempty (Run generator snapshot resolution))
      (fun failure => (∃ type ∈ snapshot.types,
          failure = .problem (.circularDependency type.name .null [])) ∨
        ∃ fault, failure = .fault fault) (generator.resolve snapshot) := by
  refine (resolve_stops htyped generator).imp (fun _ => id) fun failure hstops => ?_
  cases hstops with
  | requires h => exact .inl (Catalog.requiredTypes_failure htyped.catalog htyped.formats h)
  | type => exact .inr ⟨_, rfl⟩
  | column => exact .inr ⟨_, rfl⟩
  | record => exact .inr ⟨_, rfl⟩

namespace Run

variable (run : Run generator snapshot resolution)
include run

/-- The registry in the end has the catalog types that it had before any column was settled. -/
theorem catalog_eq : resolution.registry.byId = run.catalog.byId ∧
    resolution.registry.byName = run.catalog.byName := by
  rw [run.registry]
  exact Registry.foldl_record_catalog _ _

theorem withId?_eq (id : Json) : resolution.registry.withId? id = run.catalog.withId? id := by
  rw [Registry.withId?, run.catalog_eq.1]
  rfl

theorem findNamed?_eq (name : String) :
    resolution.registry.findNamed? name = run.catalog.findNamed? name := by
  rw [Registry.findNamed?, run.catalog_eq.2]
  rfl

theorem schemaTypes_eq :
    resolution.registry.schemaTypes =
      (generator.events snapshot.columns).filterMap Event.type? := by
  rw [run.registry, Registry.foldl_record_schemaTypes, run.settled.columns_eq.2.2, List.nil_append]

/-- What goes through all stages is not stopped. -/
theorem not_stops {failure : Failure} : ¬Stops generator snapshot failure := by
  intro hstops
  cases hstops with
  | requires h => cases run.requires.symm.trans h
  | type h hstuck =>
    cases run.requires.symm.trans h
    generalize hrequired : resolution.requiredTypes = required at hstuck
    obtain ⟨hbefore, hnone, after⟩ := hstuck
    have hsettled := run.settled
    rw [hrequired] at hsettled
    obtain ⟨_, _, _, _, _, _, hearlier, htarget, _⟩ := hsettled.exists_step
    rw [hbefore.registry_unique hearlier] at hnone
    cases hnone.symm.trans htarget
  | column hcolumn h =>
    obtain ⟨result, hresult⟩ := run.columns _ hcolumn
    cases hresult.symm.trans h
  | record htype hrecord hname =>
    rw [← run.schemaTypes_eq] at htype
    exact hname (Registry.isText_of_schemaRecords run.schemaRecords htype hrecord)

theorem requiredTypes_nodup (htyped : snapshot.WellTyped) :
    (resolution.requiredTypes.map (·.id)).Nodup :=
  (Catalog.requiredTypes_subset htyped.catalog htyped.formats run.requires).1

theorem mem_types (htyped : snapshot.WellTyped) {type : CatalogType}
    (htype : type ∈ resolution.requiredTypes) : type ∈ snapshot.types :=
  (Catalog.requiredTypes_subset htyped.catalog htyped.formats run.requires).2 type htype

theorem mem_types_of_before (htyped : snapshot.WellTyped) {before after : List CatalogType}
    {type : CatalogType} (hrequired : resolution.requiredTypes = before ++ type :: after)
    {other : CatalogType} (hother : other ∈ before) : other ∈ snapshot.types :=
  run.mem_types htyped (by rw [hrequired]; exact List.mem_append_left _ hother)

end Run

/-- A run fails exactly where something stops it. -/
theorem resolve_fails_iff (htyped : snapshot.WellTyped) :
    (∃ failure, generator.resolve snapshot = .error failure) ↔
      ∃ failure, Stops generator snapshot failure := by
  have hends := resolve_stops htyped generator
  constructor
  · rintro ⟨failure, hfailed⟩
    exact ⟨failure, hends.of_eq_error hfailed⟩
  · rintro ⟨failure, hstops⟩
    cases hresolve : generator.resolve snapshot with
    | error failure => exact ⟨failure, rfl⟩
    | ok resolution =>
      obtain ⟨run⟩ := hends.of_eq_ok hresolve
      exact absurd hstops run.not_stops

/-- The step of a run that settles one of its types: what is registered before it stays, and
    so does what it registers. -/
structure Step (run : Run generator snapshot resolution) (before : List CatalogType)
    (type : CatalogType) where
  earlier : List Diagnostic
  registry : Registry
  declared : List DartType
  found : List Diagnostic
  target : DartType
  later : List Diagnostic
  settled : Settled generator.locales before earlier registry declared
  maps : Mapping.target generator.locales registry type = ⟨found, .ok target⟩
  notes : run.notes = earlier ++ found ++ later
  entry : resolution.registry.byId.find? (labelOf type.id).key = some (type, target)
  kept : ∀ key entry, registry.byId.find? key = some entry →
    resolution.registry.byId.find? key = some entry

theorem Run.exists_step (run : Run generator snapshot resolution)
    {before after : List CatalogType} {type : CatalogType}
    (hrequired : resolution.requiredTypes = before ++ type :: after) :
    Nonempty (Step run before type) := by
  have hsettled := run.settled
  rw [hrequired] at hsettled
  obtain ⟨earlier, registry, declared, found, target, later, hbefore, hmaps, hnotes, hentry,
    hkept⟩ := hsettled.exists_step
  rw [← run.catalog_eq.1] at hentry hkept
  exact ⟨{ earlier, registry, declared, found, target, later
           settled := hbefore
           maps := hmaps
           notes := hnotes
           entry := hentry
           kept := hkept }⟩

namespace Step

variable {run : Run generator snapshot resolution} {before after : List CatalogType}
  {type : CatalogType} (step : Step run before type)
include step

/-- What is registered before a step is registered alike in the end. -/
theorem withId?_eq {other : CatalogType} (hother : other ∈ before) :
    ∃ target, step.registry.withId? other.id = some target ∧
      resolution.registry.withId? other.id = some target := by
  obtain ⟨target, htarget⟩ := step.settled.registered hother
  refine ⟨target, ?_, ?_⟩
  · rw [Registry.withId?, htarget]
    rfl
  · rw [Registry.withId?, step.kept _ _ htarget]
    rfl

theorem withId?_eq_none {id : Json} (hid : ∃ number, id = .int number)
    (hnew : id ∉ before.map (·.id)) : step.registry.withId? id = none := by
  rw [Registry.withId?, step.settled.byId_find?_eq_none hid hnew]
  rfl

/-- Nothing is registered under an id that the catalog does not have. -/
theorem withId?_eq_none_of_missing (htyped : snapshot.WellTyped)
    (hrequired : resolution.requiredTypes = before ++ type :: after) {id : Json}
    (hid : ∃ number, id = .int number) (hmissing : ∀ other ∈ snapshot.types, other.id ≠ id) :
    step.registry.withId? id = none := by
  refine step.withId?_eq_none hid fun hmem => ?_
  obtain ⟨other, hother, rfl⟩ := List.mem_map.mp hmem
  exact hmissing other (run.mem_types_of_before htyped hrequired hother) rfl

end Step

end Generator
end DartModels
