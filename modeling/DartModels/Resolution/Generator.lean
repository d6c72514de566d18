import DartModels.Catalog.Requirement
import DartModels.Dart.Source
import DartModels.Resolution.Mapping
import DartModels.Resolution.SchemaColumn
import DartModels.Resolution.SchemaRecords

namespace DartModels

/-- How a run is to be done: the locales that labels have to cover, the functions
    whose checks hold schemas, and the schemas to keep to, if not all. -/
structure Generator where
  locales : List String := ["en"]
  functions : List String := Constraint.defaultFunctions
  schemas : Option (List String) := none

/-- What a run settles for a snapshot. -/
structure Resolution where
  registry : Registry
  requiredTypes : List CatalogType
  declarables : List DartType
  diagnostics : List Diagnostic

namespace Generator

variable [Text.HalfBlock]

/-- Settles one catalog type after those that it needs. Enums and composite types
    are to be declared. -/
def settleType (generator : Generator) (state : Registry × List DartType)
    (type : CatalogType) : Traced Diagnostic Failure (Registry × List DartType) := do
  let (registry, declarables) := state
  let target ← (Mapping.target generator.locales registry type).mapError .fault
  let registry ← .lift (registry.insert type target)
  match target with
  | .enum .. | .composite .. => return (registry, declarables ++ [target])
  | _ => return (registry, declarables)

/-- Settles what the check constraint of a column says about its type. -/
def settleColumn (generator : Generator) (registry : Registry) (column : Column) :
    Traced Diagnostic Failure Registry :=
  let typed := column.schemaType generator.functions
  { trace := typed.trace.filterMap Schema.Event.diagnostic?
    outcome := typed.outcome.mapError Failure.fault |>.map fun _ =>
      typed.trace.foldl Registry.record registry }

/-- Settles every type that the columns of a snapshot need: catalog types in the
    order of their needs, then columns with schemas of their own, and in the end the
    records that these call for. -/
def resolve (generator : Generator) (snapshot : Snapshot) : Except Failure Resolution := do
  let run : Traced Diagnostic Failure (Registry × List CatalogType × List DartType) := do
    let required ← Catalog.requiredTypes snapshot.types snapshot.columns
    let (registry, declarables) ← required.foldlM generator.settleType ({}, [])
    let registry ← snapshot.columns.foldlM generator.settleColumn registry
    let records ← registry.schemaRecords.mapError .fault
    return (registry, required, declarables ++ records.map SchemaRecord.toType)
  let (registry, requiredTypes, declarables) ← run.outcome
  return { registry, requiredTypes, declarables, diagnostics := run.trace }

/-- The relations that belong to the schemas of the snapshot, and to those to keep
    to. -/
def select (generator : Generator) (snapshot : Snapshot) (relations : List Relation) :
    Except Fault (List Relation) := do
  let known ← snapshot.schemaNames.mapM fun name => do return (← Catalog.label name).key
  let wanted :=
    match generator.schemas with
    | none => known
    | some names => known.filter (names.map Json.Key.text).contains
  relations.filterM fun relation => do
    return wanted.contains (← Catalog.label relation.schema).key

/-- The generated file for a snapshot whose types are settled. -/
def render (generator : Generator) (snapshot : Snapshot) (resolution : Resolution) :
    Except Fault String := do
  let tables ← generator.select snapshot snapshot.tables
  let views ← generator.select snapshot snapshot.views
  let columns ← Snapshot.columnsByTable snapshot.columns
  Dart.source resolution.declarables tables views columns resolution.registry

/-- The generated file for a snapshot. -/
def generate (generator : Generator) (snapshot : Snapshot) : Except Failure String := do
  let resolution ← generator.resolve snapshot
  Failure.ofFault (generator.render snapshot resolution)

end Generator
end DartModels
