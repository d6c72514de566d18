import DartModels.Catalog.Basic
import DartModels.Json.Key
import DartModels.Problem
import DartModels.Text.Occurrence

namespace DartModels.Snapshot

/-- The lists that a snapshot is made of. -/
inductive Part where
  | schemas
  | tables
  | views
  | columns
  | types
deriving DecidableEq, Repr

/-- The member that holds the list. -/
def Part.name : Part → String
  | .schemas => "schemas"
  | .tables => "tables"
  | .views => "views"
  | .columns => "columns"
  | .types => "types"

/-- What one entry of the list is called. -/
def Part.kind : Part → String
  | .schemas => "schema"
  | .tables => "table"
  | .views => "view"
  | .columns => "column"
  | .types => "type"

/-- The members that every entry of the list must have. -/
def Part.requiredKeys : Part → List String
  | .schemas => ["name"]
  | .tables | .views => ["id", "name"]
  | .columns => ["table_id", "name", "format"]
  | .types => ["id", "name"]

/-- The members that every attribute of a type must have. -/
def attributeKeys : List String := ["name", "type_id"]

/-- How a value fails to be a snapshot. -/
inductive Malformation where
  | notObject
  | notList (part : Part)
  | entryNotObject (part : Part)
  | missingKeys (kind : String) (name : Json) (keys : List String)

/-- What is wrong. -/
def Malformation.message : Malformation → String
  | .notObject => "Metadata snapshot must be a JSON object"
  | .notList part => "'" ++ part.name ++ "' must be a list"
  | .entryNotObject part => "Every entry of '" ++ part.name ++ "' must be an object"
  | .missingKeys kind name keys =>
    kind ++ " '" ++ name.display ++ "' is missing required fields: " ++ Text.joined ", " keys

/-- Where it is wrong. -/
def Malformation.record : Malformation → Json
  | .notObject => .null
  | .notList part | .entryNotObject part => .text part.name
  | .missingKeys kind _ _ => .text kind

/-- The problem of a malformed snapshot that was read from some place. -/
def Malformation.problem (source : Json) (malformation : Malformation) : Problem :=
  .metadata malformation.message source malformation.record []

/-- How reading a snapshot fails. -/
inductive ReadFailure where
  | malformed (malformation : Malformation)
  | fault (fault : Fault)

/-- The members of the entries of a list. A list that is not there has none. -/
def entries (members : Json.Members) (part : Part) : Except ReadFailure (List Json.Members) :=
  match members.lookup part.name with
  | none => .ok []
  | some (.array items) => items.mapM fun
    | .object entry => .ok entry
    | _ => .error (.malformed (.entryNotObject part))
  | some _ => .error (.malformed (.notList part))

/-- The required keys that an entry lacks. -/
def missingKeys (entry : Json.Members) (keys : List String) : List String :=
  keys.filter fun key => (entry.lookup key).isNone

/-- Accepts an entry that has all the required keys. -/
def require (kind : String) (keys : List String) (entry : Json.Members) :
    Except ReadFailure Unit :=
  match missingKeys entry keys with
  | [] => .ok ()
  | missing =>
    let name := (entry.lookup "name").getD (.text "<unnamed>")
    .error (.malformed (.missingKeys kind name missing))

/-- The member of an entry, or a default where it is absent. -/
def member (entry : Json.Members) (name : String) (default : Json) : Json :=
  (entry.lookup name).getD default

/-- The schema of an entry. -/
def readSchema (entry : Json.Members) : Except ReadFailure Schema := do
  require Part.schemas.kind Part.schemas.requiredKeys entry
  return { id := member entry "id" (.int 0), name := member entry "name" .null }

/-- The table or view of an entry. -/
def readRelation (part : Part) (entry : Json.Members) : Except ReadFailure Relation := do
  require part.kind part.requiredKeys entry
  return {
    id := member entry "id" .null
    name := member entry "name" .null
    schema := member entry "schema" (.text "public")
    comment := member entry "comment" .null }

/-- The column of an entry. Its flags hold for any value that counts as given. -/
def readColumn (entry : Json.Members) : Except ReadFailure Column := do
  require Part.columns.kind Part.columns.requiredKeys entry
  return {
    tableId := member entry "table_id" .null
    name := member entry "name" .null
    format := member entry "format" .null
    dataType := (member entry "data_type" .null).orElse (.text "")
    isNullable := (member entry "is_nullable" (.bool true)).isTruthy
    isGenerated := (member entry "is_generated" (.bool false)).isTruthy
    isIdentity := (member entry "is_identity" (.bool false)).isTruthy
    defaultValue := member entry "default_value" .null
    check := member entry "check" .null
    schema := member entry "schema" (.text "public")
    table := member entry "table" (.text "")
    comment := member entry "comment" .null }

/-- The items of a value that can be gone through: those of an array, the
    characters of a text, the names of an object's members. -/
def itemsOf : Json → Except Fault (List Json)
  | .array items => .ok items
  | .text value => .ok (value.toList.map fun c => .text (String.ofList [c]))
  | .object members => .ok (members.map fun (name, _) => .text name)
  | _ => .error .notIterable

/-- The items of a value that may be left out. -/
def optionalItems (value : Json) : Except ReadFailure (List Json) :=
  if value.isTruthy then (itemsOf value).mapError .fault else .ok []

/-- The fault of an attribute that is no object. A text or array that seems to
    have the required keys fails when they are looked up, any other when it is asked
    for its name. -/
def attributeFault : Json → Fault
  | .text value =>
    if attributeKeys.all fun key => Text.occursIn key.toList value.toList then .attributeNotIndexed
    else .attributeNotObject
  | .array items =>
    if attributeKeys.all fun key => items.any (Json.same (.text key)) then .attributeNotIndexed
    else .attributeNotObject
  | _ => .notIterable

/-- The attribute of an entry. -/
def readAttribute : Json → Except ReadFailure Attribute
  | .object entry => do
    require "attribute" attributeKeys entry
    return { name := member entry "name" .null, typeId := member entry "type_id" .null }
  | other => .error (.fault (attributeFault other))

/-- The catalog type of an entry. -/
def readType (entry : Json.Members) : Except ReadFailure CatalogType := do
  require Part.types.kind Part.types.requiredKeys entry
  let attributes ← (← optionalItems (member entry "attributes" .null)).mapM readAttribute
  let enums ← optionalItems (member entry "enums" .null)
  return {
    id := member entry "id" .null
    name := member entry "name" .null
    schema := member entry "schema" (.text "public")
    format := (member entry "format" .null).orElse (.text "")
    enums
    attributes
    comment := member entry "comment" .null }

/-- The snapshot of an object. -/
def ofMembers (members : Json.Members) : Except ReadFailure Snapshot := do
  let schemas ← (← entries members .schemas).mapM readSchema
  let tables ← (← entries members .tables).mapM (readRelation .tables)
  let views ← (← entries members .views).mapM (readRelation .views)
  let columns ← (← entries members .columns).mapM readColumn
  let types ← (← entries members .types).mapM readType
  return { schemas, tables, views, columns, types }

/-- The snapshot of a value that was read from some place. -/
def ofJson (source value : Json) : Except Failure Snapshot :=
  let result :=
    match value with
    | .object members => ofMembers members
    | _ => .error (.malformed .notObject)
  result.mapError fun
    | .malformed malformation => .problem (malformation.problem source)
    | .fault fault => .fault fault

end DartModels.Snapshot
