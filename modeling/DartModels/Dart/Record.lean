import DartModels.Dart.Literal
import DartModels.Dart.Type
import DartModels.Text.Joined

namespace DartModels.Dart

/-- The entries of a list, each on a line of its own at some indentation, or
    nothing between the brackets when there are none. -/
def bracketed (opening closing indent outdent : String) (entries : List String) : String :=
  if entries.isEmpty then "()"
  else
    opening ++ Text.joined "," (entries.map ("\n" ++ indent ++ ·)) ++ "\n" ++ outdent ++ closing

/-- A list of named parameters. -/
def parameters (entries : List String) : String :=
  bracketed "(\x7b" "\x7d)" "    " "  " entries

/-- The arguments of a call inside a member. -/
def arguments (entries : List String) : String :=
  bracketed "(" ")" "    " "  " entries

/-- The arguments of a call inside the body of a member. -/
def innerArguments (entries : List String) : String :=
  bracketed "(" ")" "      " "    " entries

/-- A class with final fields that turns itself into JSON and back. Each member
    has a JSON key and a type. -/
structure RecordClass where
  className : String
  members : List (Json × DartType)

namespace RecordClass

/-- The property that holds the member of a key. -/
def property (key : Json) : String :=
  propertyName key.spelling

/-- The fields. -/
def fields (record : RecordClass) : List String :=
  record.members.map fun (key, type) => "  final " ++ type.typeName ++ " " ++ property key ++ ";"

/-- The constructor, which demands what may not be null. -/
def constructor (record : RecordClass) : String :=
  let entries := record.members.map fun (key, type) =>
    (if type.isNullable then "" else "required ") ++ "this." ++ property key
  "  const " ++ record.className ++ parameters entries ++ ";"

/-- The parameters of a function that may leave out any member. -/
def optionalParameters (record : RecordClass) : List String :=
  record.members.map fun (key, type) => type.orNull.typeName ++ " " ++ property key

/-- An entry of the JSON form, present when the member is not null. -/
def mapEntry (key : Json) (type : DartType) : String :=
  "\n    if (" ++ property key ++ " != null) " ++ literal key.spelling ++ ": " ++
    type.encode (property key)

/-- The function that builds the JSON form from the members that are given. -/
def generateMap (record : RecordClass) : String :=
  let entries := Text.joined "," (record.members.map fun (key, type) => mapEntry key type)
  let closing := if record.members.isEmpty then "" else "\n  "
  "  static Map<String, dynamic> _generateMap" ++ parameters record.optionalParameters ++
    " => \x7b" ++ entries ++ closing ++ "\x7d;"

/-- Each member passed on under its own name. -/
def forwarded (keys : List Json) : List String :=
  keys.map fun key => property key ++ ": " ++ property key

/-- The method that turns the object into JSON. -/
def toJson (record : RecordClass) : String :=
  "  @override\n  Map<String, dynamic> toJson() => _generateMap" ++
    arguments (forwarded (record.members.map Prod.fst)) ++ ";"

/-- The factory that builds an object from JSON. -/
def fromJson (record : RecordClass) : String :=
  let entries := record.members.map fun (key, type) =>
    property key ++ ": " ++ type.decode ("jsonObject[" ++ literal key.spelling ++ "]")
  "  @override\n  factory " ++ record.className ++
    ".fromJson(Map<String, dynamic> jsonObject) \x7b\n    return " ++ record.className ++
    innerArguments entries ++ ";\n  \x7d"

/-- The method that makes a copy with some members replaced. -/
def copyWith (record : RecordClass) : String :=
  let entries := record.members.map fun (key, _) =>
    property key ++ ": " ++ property key ++ " ?? this." ++ property key
  "  " ++ record.className ++ " copyWith" ++ parameters record.optionalParameters ++
    " \x7b\n    return " ++ record.className ++ innerArguments entries ++ ";\n  \x7d"

/-- The whole class, with lines before its fields and sections behind the usual
    ones. -/
def source (record : RecordClass) (header extra : List String) : String :=
  let sections :=
    [record.constructor, record.generateMap, record.toJson, record.fromJson, record.copyWith]
  Text.lines
    (["class " ++ record.className ++ " implements JsonSerializable \x7b"] ++ header ++
      record.fields ++ (sections ++ extra).flatMap (fun part => ["", part]) ++ ["\x7d"])

/-- Whether all names that the class is written with are texts. -/
def isSpellable (record : RecordClass) : Bool :=
  record.members.all fun (key, type) => key.isText && type.isSpellable

end RecordClass
end DartModels.Dart
