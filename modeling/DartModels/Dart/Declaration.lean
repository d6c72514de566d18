import DartModels.Dart.Enum
import DartModels.Dart.Record
import DartModels.Fault

namespace DartModels.Dart

/-- The class of a composite type. Attributes of a composite may always be null. -/
def compositeClass (name : Json) (fields : List (Json × DartType)) : RecordClass :=
  { className := DartType.classNameOf name,
    members := fields.map fun (key, type) => (key, type.orNull) }

/-- The class of an object described by a JSON schema. -/
def objectClass (name : Json) (fields : List (Json × DartType)) : RecordClass :=
  { className := DartType.classNameOf name, members := fields }

/-- The enumeration of a database enum. -/
def enumClass (name : Json) (values : List Json) (translations : Option Translations) :
    EnumClass :=
  { className := DartType.classNameOf name, values := values.map Json.spelling, translations }

/-- The declaration of a type. Only enums and records have one, and only if all
    their names are texts. -/
def declaration : DartType → Except Fault String
  | .enum name values translations =>
    if name.isText && values.all Json.isText then
      .ok (enumClass name values translations).source
    else .error .nameNotText
  | .composite name fields =>
    let record := compositeClass name fields
    if name.isText && record.isSpellable then .ok (record.source [] []) else .error .nameNotText
  | .object name fields =>
    let record := objectClass name fields
    if name.isText && record.isSpellable then .ok (record.source [] []) else .error .nameNotText
  | type => .error (.noDeclaration type.kind)

end DartModels.Dart
