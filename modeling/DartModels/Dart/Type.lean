import DartModels.Dart.Naming
import DartModels.Json.Key

namespace DartModels

/-- The labels of an enum's values in each locale. -/
abbrev Translations := List (String × List (String × String))

/-- A type of the generated code. -/
inductive DartType where
  /-- A type that the language names by a keyword. -/
  | scalar (keyword : String)
  /-- Dates and times, which travel as ISO 8601 texts. -/
  | temporal
  /-- Durations, which are read as hours, minutes and seconds and written as whole
      seconds. -/
  | interval
  | list (element : DartType)
  /-- A type together with null; made by `orNull`, which never nests it. -/
  | nullable (inner : DartType)
  | map (key value : DartType)
  /-- A closed set of values, with labels that are no part of its identity. -/
  | enum (name : Json) (values : List Json) (translations : Option Translations)
  /-- A record that stands for a composite type of the database. -/
  | composite (name : Json) (fields : List (Json × DartType))
  /-- A record that stands for an object described by a JSON schema. -/
  | object (name : Json) (fields : List (Json × DartType))
  /-- A record of that name that is still being put together. -/
  | reference (name : Json)
deriving Inhabited

namespace DartType

/-- The type that also allows null. -/
def orNull : DartType → DartType
  | .nullable inner => .nullable inner
  | type => .nullable type

/-- Whether a type allows null. -/
def isNullable : DartType → Bool
  | .nullable _ => true
  | _ => false

/-- The type inside all lists and nullable types around it. -/
def unwrap : DartType → DartType
  | .nullable inner => unwrap inner
  | .list element => unwrap element
  | type => type

/-- Whether a type needs a declaration of its own. -/
def isDeclarable : DartType → Bool
  | .enum .. | .composite .. | .object .. => true
  | _ => false

/-- The class of a declared type, by the name it has in the database. -/
def classNameOf (name : Json) : String :=
  Dart.className name.spelling

/-- Whether the name of every class that the type's own name is made of is a
    text. Only such a type can be written. -/
def isSpellable : DartType → Bool
  | .scalar _ | .temporal | .interval => true
  | .list element => isSpellable element
  | .nullable inner => isSpellable inner
  | .map key value => isSpellable key && isSpellable value
  | .enum name _ _ | .composite name _ | .object name _ | .reference name => name.isText

/-- The name of a type in the generated code. -/
def typeName : DartType → String
  | .scalar keyword => keyword
  | .temporal => "DateTime"
  | .interval => "Duration"
  | .list element => "List<" ++ typeName element ++ ">"
  | .nullable inner => typeName inner ++ "?"
  | .map key value => "Map<" ++ typeName key ++ ", " ++ typeName value ++ ">"
  | .enum name _ _ | .composite name _ | .object name _ | .reference name => classNameOf name

/-- An expression for the JSON form of the value of an expression. -/
def encode : DartType → (value : String) → String
  | .scalar _, value | .map _ _, value => value
  | .temporal, value => value ++ ".toIso8601String()"
  | .interval, value => value ++ ".inSeconds"
  | .list element, value => value ++ ".map((v) => " ++ encode element "v" ++ ").toList()"
  | .nullable inner, value => encode inner value
  | .enum .., value | .composite .., value | .object .., value | .reference _, value =>
    value ++ ".toJson()"

/-- An expression that builds a value of the type from the JSON form that an
    expression holds. -/
def decode : DartType → (value : String) → String
  | .scalar keyword, value => value ++ " as " ++ keyword
  | .temporal, value => "DateTime.parse(" ++ value ++ ")"
  | .interval, value => "parsePostgresInterval(" ++ value ++ ")"
  | .list element, value =>
    "(" ++ value ++ " as List<dynamic>).map((v) => " ++ decode element "v" ++ ").toList()"
  | .nullable inner, value => value ++ " == null ? null : " ++ decode inner value
  | .map _ _, value => value ++ " as Map<String, dynamic>"
  | .enum name _ _, value | .composite name _, value | .object name _, value
  | .reference name, value => classNameOf name ++ ".fromJson(" ++ value ++ ")"

mutual

/-- Equality of types. The labels of enums do not count. -/
def same : DartType → DartType → Bool
  | .scalar x, .scalar y => x == y
  | .temporal, .temporal => true
  | .interval, .interval => true
  | .list x, .list y => same x y
  | .nullable x, .nullable y => same x y
  | .map k v, .map l w => same k l && same v w
  | .enum x xs _, .enum y ys _ => x.same y && Json.sameItems xs ys
  | .composite x xs, .composite y ys => x.same y && sameFields xs ys
  | .object x xs, .object y ys => x.same y && sameFields xs ys
  | .reference x, .reference y => x.same y
  | _, _ => false

/-- Equality of fields, one by one. -/
def sameFields : List (Json × DartType) → List (Json × DartType) → Bool
  | [], [] => true
  | (n, x) :: xs, (m, y) :: ys => n.same m && same x y && sameFields xs ys
  | _, _ => false

end

/-- Any value at all. -/
def dynamic : DartType := .scalar "dynamic"

/-- Texts. -/
def string : DartType := .scalar "String"

/-- JSON of unknown shape. -/
def jsonMap : DartType := .map string dynamic

/-- The type of a built-in type of the database. -/
def builtin? : String → Option DartType
  | "bool" => some (.scalar "bool")
  | "int2" | "int4" | "int8" => some (.scalar "int")
  | "float4" | "float8" | "numeric" => some (.scalar "double")
  | "time" | "timetz" | "timestamp" | "timestamptz" | "date" => some .temporal
  | "interval" => some .interval
  | "uuid" | "text" | "varchar" | "bpchar" | "citext" | "name" | "regclass" => some string
  | "jsonb" | "json" => some jsonMap
  | _ => none

/-- What kind of type this is, as reports call it. -/
def kind : DartType → String
  | .scalar _ => "ScalarType"
  | .temporal => "TemporalType"
  | .interval => "IntervalType"
  | .list _ => "ListType"
  | .nullable _ => "NullableType"
  | .map _ _ => "MapType"
  | .enum .. => "EnumType"
  | .composite .. => "CompositeType"
  | .object .. => "SchemaDerivedObject"
  | .reference _ => "TypeReference"

/-- The members that sum a type up in a report. -/
def summary (type : DartType) : Json.Members :=
  [("kind", .text type.unwrap.kind), ("dart_type", .text type.typeName),
    ("nullable", .bool type.isNullable)]

end DartType
end DartModels
