import DartModels.Dart.Type
import DartModels.Diagnostic
import DartModels.Fault
import DartModels.Json.Display
import DartModels.Json.Table
import DartModels.Json.Writer
import DartModels.Schema.Declared
import DartModels.Traced

namespace DartModels.Schema

/-- What typing a schema leaves behind, in order. -/
inductive Event where
  /-- Something was found that a best effort makes up for. -/
  | noted (diagnostic : Diagnostic)
  /-- The type of an array element or a property was settled. -/
  | derived (name : String) (type : DartType)
  /-- The type of a column was settled. -/
  | column (label : Label) (type : DartType)

/-- A type on the way to which events happened. -/
abbrev Typed (α : Type) := Traced Event Fault α

/-- How a schema is called in messages. -/
def nameInMessage (name : Json) : String :=
  (name.orElse (.text "<unnamed>")).display

/-- A schema is no object. -/
def notObject (name : Json) : Diagnostic :=
  { code := "json_schema_invalid"
    message := "Schema for " ++ nameInMessage name ++ " is not an object, using a map"
    subject := name }

/-- The type of a schema is none that has a counterpart. -/
def unrecognized (type name : Json) : Diagnostic :=
  { code := "json_schema_invalid"
    message := "Unrecognized schema type " ++ type.literal ++ " for " ++ nameInMessage name ++
      ", using dynamic"
    subject := name
    level := .info }

/-- A schema allows several types. -/
def union (types : List Json) (name : Json) : Diagnostic :=
  { code := "json_schema_invalid"
    message := "Union schema type " ++ (Json.array types).literal ++ " for " ++
      nameInMessage name ++ ", using dynamic"
    subject := name
    level := .info }

/-- A record has no name. -/
def unnamed (members : Json.Members) : Diagnostic :=
  let written := Json.write .oneLine 0 (.object members)
  { code := "json_schema_unnamed"
    message := "No name provided for object schema " ++ String.ofList (written.take 200) ++
      ", using a map"
    subject := .null }

/-- The name of the elements of an array. -/
def elementName (name : Json) : Json :=
  if name.isTruthy then .text (name.display ++ "_element") else .null

/-- The type of a primitive type of JSON schema. -/
def primitive? : String → Option DartType
  | "string" => some .string
  | "integer" => some (.scalar "int")
  | "number" => some (.scalar "double")
  | "boolean" => some (.scalar "bool")
  | "null" => some DartType.dynamic.orNull
  | _ => none

/-- The type of a schema that is neither an array with items nor a record. -/
def plainType (type name : Json) : Typed DartType :=
  match type with
  | .array _ | .object _ => .lift (.error .notKey)
  | .text spelling =>
    match primitive? spelling with
    | some type => pure type
    | none => do
      .tell (.noted (unrecognized type name))
      return .dynamic
  | _ => do
    .tell (.noted (unrecognized type name))
    return .dynamic

/-- The properties that must be there. -/
def requiredKeys (members : Json.Members) : Except Fault (List Json.Key) :=
  match members.lookup "required" with
  | some (.array names) => names.mapM fun name =>
    match name.key? with
    | some key => .ok key
    | none => .error .notKey
  | _ => .ok []

theorem sizeOf_lookup {members : Json.Members} {name : String} {value : Json}
    (h : members.lookup name = some value) : sizeOf value < sizeOf members := by
  induction members with
  | nil => simp at h
  | cons member rest ih =>
    obtain ⟨n, v⟩ := member
    rw [List.lookup_cons] at h
    split at h
    · cases h
      simp
      omega
    · have := ih h
      simp
      omega

/-- The type of a schema, under the name that its record would have. Elements and
    properties are settled before what they belong to. -/
def typeOf (schema name : Json) : Typed DartType :=
  match schema with
  | .object members => do
    let declaration := declared ((members.lookup "type").getD .null)
    let type ←
      match declaration.alternative with
      | .none => pure DartType.dynamic.orNull
      | .several types => do
        .tell (.noted (union types name))
        pure .dynamic
      | .single (.text "array") =>
        match _h : members.lookup "items" with
        | some .null | none => plainType (.text "array") name
        | some items => do
          let element ← typeOf items (elementName name)
          match elementName name with
          | .text elementName => .tell (.derived elementName element)
          | _ => pure ()
          pure (.list element)
      | .single (.text "object") =>
        match _h : members.lookup "properties" with
        | some (.object properties) =>
          match name with
          | .null => do
            .tell (.noted (unnamed (Json.put "type" (.text "object") members)))
            pure .jsonMap
          | _ => do
            let required ← .lift (requiredKeys members)
            let fields ← properties.attach.mapM fun ⟨(key, property), _member⟩ => do
              let type ← typeOf property (.text key)
              let type := if required.contains (.text key) then type else type.orNull
              .tell (.derived key type)
              return (Json.text key, type)
            pure (.object name fields)
        | _ => plainType (.text "object") name
      | .single type => plainType type name
    return if declaration.orNull then type.orNull else type
  | _ => do
    .tell (.noted (notObject name))
    return .jsonMap
termination_by sizeOf schema
decreasing_by
  · have := sizeOf_lookup _h
    simp
    omega
  · have := sizeOf_lookup _h
    have := List.sizeOf_lt_of_mem _member
    simp at *
    omega

end DartModels.Schema
