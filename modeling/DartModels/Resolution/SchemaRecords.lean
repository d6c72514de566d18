import DartModels.Diagnostic
import DartModels.Registry
import DartModels.Traced

namespace DartModels

/-- A record that a JSON schema gave. -/
structure SchemaRecord where
  name : Json
  fields : List (Json × DartType)

namespace SchemaRecord

/-- The record as a type. -/
def toType (record : SchemaRecord) : DartType :=
  .object record.name record.fields

/-- The class of the record. -/
def className (record : SchemaRecord) : String :=
  DartType.classNameOf record.name

/-- Equality of records: of their names and of their fields. -/
def same (first second : SchemaRecord) : Bool :=
  first.toType.same second.toType

mutual

/-- The records inside a type, through lists, null and fields. What stands inside
    a record comes before it. -/
def within : DartType → List SchemaRecord
  | .nullable inner => within inner
  | .list element => within element
  | .object name fields => withinFields fields ++ [{ name, fields }]
  | _ => []

/-- The records inside the types of fields. -/
def withinFields : List (Json × DartType) → List SchemaRecord
  | [] => []
  | (_, type) :: fields => within type ++ withinFields fields

end

/-- The first record of each class. -/
def firstOfClass (records : List SchemaRecord) : List SchemaRecord :=
  records.foldl
    (fun kept record =>
      if kept.any fun other => other.className == record.className then kept
      else kept ++ [record]) []

/-- The record that was kept for the class of another one. -/
def keptFor (kept : List SchemaRecord) (record : SchemaRecord) : SchemaRecord :=
  (kept.find? fun other => other.className == record.className).getD record

/-- The records that differ from the one kept for their class, each once. -/
def conflicting (kept records : List SchemaRecord) : List SchemaRecord :=
  records.foldl
    (fun found record =>
      if (keptFor kept record).same record || found.any (record.same ·) then found
      else found ++ [record]) []

/-- The names of the fields, as a message lists them. -/
def fieldNames (record : SchemaRecord) : String :=
  let names := Text.joined ", " (record.fields.map fun (name, _) => name.display)
  if names = "" then "no fields" else names

/-- Two records with different fields would be one class. -/
def conflict (kept record : SchemaRecord) : Diagnostic :=
  { code := "json_schema_conflict"
    message := "JSON schema records named " ++ record.className ++ " have different fields (" ++
      kept.fieldNames ++ " vs " ++ record.fieldNames ++ "), keeping the first"
    subject := record.name }

end SchemaRecord

/-- The records that JSON schemas gave, in the order in which they were entered and
    once for each class. -/
def Registry.schemaRecords (registry : Registry) : Traced Diagnostic Fault (List SchemaRecord) :=
  let records := registry.schemaTypes.flatMap SchemaRecord.within
  if records.all fun record => record.name.isText then
    let kept := SchemaRecord.firstOfClass records
    { trace := (SchemaRecord.conflicting kept records).map fun record =>
        SchemaRecord.conflict (SchemaRecord.keptFor kept record) record
      outcome := .ok kept }
  else .lift (.error .nameNotText)

end DartModels
