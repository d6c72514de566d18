import DartModels.Dart.Declaration
import DartModels.Proofs.Text.Lines

namespace DartModels

namespace Dart

/-- An expression of the generated code. -/
inductive Expression where
  | name (identifier : String)
  /-- What a map has under a key. -/
  | entry (target : Expression) (key : String)
  | cast (value : Expression) (type : String)
  | parenthesized (inner : Expression)
  /-- Null if a value is null, another value otherwise. -/
  | unlessNull (value other : Expression)
  /-- A list of what a function gives for each element of another one. -/
  | mapped (target : Expression) (parameter : String) (body : Expression)
  | fromJson (className : String) (json : Expression)
  | toJson (target : Expression)
  /-- A call of a function that is no member of a class. -/
  | call (function : String) (argument : Expression)
  | member (target : Expression) (property : String)

/-- An expression as it is written. -/
def Expression.text : Expression → String
  | .name identifier => identifier
  | .entry target key => text target ++ "[" ++ literal key ++ "]"
  | .cast value type => text value ++ " as " ++ type
  | .parenthesized inner => "(" ++ text inner ++ ")"
  | .unlessNull value other => text value ++ " == null ? null : " ++ text other
  | .mapped target parameter body =>
    text target ++ ".map((" ++ parameter ++ ") => " ++ text body ++ ").toList()"
  | .fromJson className json => className ++ ".fromJson(" ++ text json ++ ")"
  | .toJson target => text target ++ ".toJson()"
  | .call function argument => function ++ "(" ++ text argument ++ ")"
  | .member target property => text target ++ "." ++ property

namespace Expression

variable (value other : Expression) (identifier key type : String)

@[simp] theorem text_name : (name identifier).text = identifier := rfl

@[simp] theorem text_entry : (entry value key).text = value.text ++ "[" ++ literal key ++ "]" := rfl

@[simp] theorem text_cast : (cast value type).text = value.text ++ " as " ++ type := rfl

@[simp] theorem text_parenthesized : (parenthesized value).text = "(" ++ value.text ++ ")" := rfl

@[simp] theorem text_unlessNull :
    (unlessNull value other).text = value.text ++ " == null ? null : " ++ other.text := rfl

@[simp] theorem text_mapped : (mapped value identifier other).text =
    value.text ++ ".map((" ++ identifier ++ ") => " ++ other.text ++ ").toList()" := rfl

@[simp] theorem text_call : (call identifier value).text = identifier ++ "(" ++ value.text ++ ")" :=
  rfl

@[simp] theorem text_member :
    (member value identifier).text = value.text ++ "." ++ identifier := rfl

end Expression

end Dart

namespace DartType

open Dart (Expression)

/-- The expression for the JSON form of a value. -/
def encoding : DartType → Expression → Expression
  | .scalar _, value | .map _ _, value => value
  | .temporal, value => .member value "toIso8601String()"
  | .interval, value => .member value "inSeconds"
  | .list element, value => .mapped value "v" (encoding element (.name "v"))
  | .nullable inner, value => encoding inner value
  | .enum .., value | .composite .., value | .object .., value | .reference _, value =>
    .toJson value

/-- The expression that builds a value of a type from its JSON form. -/
def decoding : DartType → Expression → Expression
  | .scalar keyword, value => .cast value keyword
  | .temporal, value => .call "DateTime.parse" value
  | .interval, value => .call "parsePostgresInterval" value
  | .list element, value =>
    .mapped (.parenthesized (.cast value "List<dynamic>")) "v" (decoding element (.name "v"))
  | .nullable inner, value => .unlessNull value (decoding inner value)
  | .map _ _, value => .cast value "Map<String, dynamic>"
  | .enum name _ _, value | .composite name _, value | .object name _, value
  | .reference name, value => .fromJson (classNameOf name) value

/-- What is written for the JSON form of an expression is that expression. -/
theorem encode_text (type : DartType) (value : Expression) :
    type.encode value.text = (type.encoding value).text := by
  match type with
  | .list element =>
    have helement := encode_text element (.name "v")
    rw [Expression.text_name] at helement
    have hopening : ".map((v) => " = ".map((" ++ "v" ++ ") => " := by simp
    simp only [encode, encoding, Expression.text_mapped, helement, hopening, String.append_assoc]
  | .nullable inner => exact encode_text inner value
  | .temporal | .interval => simp [encode, encoding, String.append_assoc]
  | .scalar _ | .map _ _ | .enum _ _ _ | .composite _ _ | .object _ _ | .reference _ => rfl

/-- What is written to read an expression is the expression that reads it. -/
theorem decode_text (type : DartType) (value : Expression) :
    type.decode value.text = (type.decoding value).text := by
  match type with
  | .list element =>
    have helement := decode_text element (.name "v")
    rw [Expression.text_name] at helement
    have hopening : " as List<dynamic>).map((v) => " =
        " as " ++ "List<dynamic>" ++ ")" ++ ".map((" ++ "v" ++ ") => " := by simp
    change "(" ++ value.text ++ " as List<dynamic>).map((v) => " ++ element.decode "v" ++
      ").toList()" = _
    simp only [decoding, Expression.text_mapped, Expression.text_parenthesized,
      Expression.text_cast, helement, hopening, String.append_assoc]
  | .nullable inner =>
    change value.text ++ " == null ? null : " ++ inner.decode value.text = _
    rw [decode_text inner value]
    rfl
  | .temporal =>
    have hopening : "DateTime.parse(" = "DateTime.parse" ++ "(" := by simp
    change "DateTime.parse(" ++ value.text ++ ")" = _
    simp only [decoding, Expression.text_call, hopening, String.append_assoc]
  | .interval =>
    have hopening : "parsePostgresInterval(" = "parsePostgresInterval" ++ "(" := by simp
    change "parsePostgresInterval(" ++ value.text ++ ")" = _
    simp only [decoding, Expression.text_call, hopening, String.append_assoc]
  | .map _ _ =>
    have hcast : " as Map<String, dynamic>" = " as " ++ "Map<String, dynamic>" := by simp
    change value.text ++ " as Map<String, dynamic>" = _
    simp only [decoding, Expression.text_cast, hcast, String.append_assoc]
  | .scalar _ | .enum _ _ _ | .composite _ _ | .object _ _ | .reference _ => rfl

end DartType

namespace Dart

/-- Entries between brackets, each on a line of its own, further in than the line of the bracket
    that closes them. -/
def listed (opening closing margin : String) : List String → String
  | [] => "()"
  | entries =>
    opening ++ ",".intercalate (entries.map ("\n" ++ margin ++ "  " ++ ·)) ++ "\n" ++ margin ++
      closing

section

variable (entries : List String)

theorem bracketed_eq_listed (opening closing margin : String) :
    bracketed opening closing (margin ++ "  ") margin entries =
      listed opening closing margin entries := by
  cases entries with
  | nil => rfl
  | cons entry entries =>
    simp [bracketed, listed, Text.joined_eq_intercalate, String.append_assoc]

theorem parameters_eq_listed : parameters entries = listed "(\x7b" "\x7d)" "  " entries :=
  bracketed_eq_listed entries "(\x7b" "\x7d)" "  "

theorem arguments_eq_listed : arguments entries = listed "(" ")" "  " entries :=
  bracketed_eq_listed entries "(" ")" "  "

theorem innerArguments_eq_listed : innerArguments entries = listed "(" ")" "    " entries :=
  bracketed_eq_listed entries "(" ")" "    "

end

/-- A parameter of a constructor, for a property of the same name. -/
structure Parameter where
  name : String
  isRequired : Bool

def Parameter.text (parameter : Parameter) : String :=
  (if parameter.isRequired then "required " else "") ++ "this." ++ parameter.name

/-- A parameter that may be left out, behind its type. -/
def optionalText (parameter : String × String) : String :=
  parameter.1 ++ " " ++ parameter.2

/-- An argument that is passed by name. -/
def argumentText (argument : String × Expression) : String :=
  argument.1 ++ ": " ++ argument.2.text

/-- An entry of a map that is there if something is not null. -/
structure MapEntry where
  condition : String
  key : String
  value : Expression

def MapEntry.text (entry : MapEntry) : String :=
  "\n    if (" ++ entry.condition ++ " != null) " ++ literal entry.key ++ ": " ++ entry.value.text

/-- The parts of a class that turn objects into JSON and back. -/
structure RecordCode where
  className : String
  parameters : List Parameter
  /-- What the constructor is given for an object of JSON. -/
  read : List (String × Expression)
  /-- The parameters of the function that builds the JSON form, behind their types. -/
  optional : List (String × String)
  entries : List MapEntry
  /-- What this function is given for an object of the class. -/
  forwarded : List (String × Expression)

namespace RecordCode

def constructor (code : RecordCode) : String :=
  "  const " ++ code.className ++
    listed "(\x7b" "\x7d)" "  " (code.parameters.map Parameter.text) ++ ";"

def generateMap (code : RecordCode) : String :=
  "  static Map<String, dynamic> _generateMap" ++
    listed "(\x7b" "\x7d)" "  " (code.optional.map optionalText) ++ " => \x7b" ++
    ",".intercalate (code.entries.map MapEntry.text) ++
    (if code.entries.isEmpty then "" else "\n  ") ++ "\x7d;"

def toJson (code : RecordCode) : String :=
  "  @override\n  Map<String, dynamic> toJson() => _generateMap" ++
    listed "(" ")" "  " (code.forwarded.map argumentText) ++ ";"

def fromJson (code : RecordCode) : String :=
  "  @override\n  factory " ++ code.className ++
    ".fromJson(Map<String, dynamic> jsonObject) \x7b\n    return " ++ code.className ++
    listed "(" ")" "    " (code.read.map argumentText) ++ ";\n  \x7d"

end RecordCode

/-- A class ends with some sections, each behind an empty line, and the closing brace. -/
def EndsWithSections (text : String) (sections : List String) : Prop :=
  ∃ front, text = "\n".intercalate (front ++ sections.flatMap (["", ·]) ++ ["\x7d"])

namespace RecordClass

/-- The parameter for the member of a key. -/
def parameter (member : Json × DartType) : Parameter :=
  ⟨property member.1, !member.2.isNullable⟩

/-- How the member of a key is read. -/
def reading (member : Json × DartType) : String × Expression :=
  (property member.1, member.2.decoding (.entry (.name "jsonObject") member.1.spelling))

theorem reading_fst (member : Json × DartType) : (reading member).1 = property member.1 := by
  rw [reading]

/-- How the member of a key is written. -/
def writing (member : Json × DartType) : MapEntry :=
  ⟨property member.1, member.1.spelling, member.2.encoding (.name (property member.1))⟩

theorem writing_condition (member : Json × DartType) :
    (writing member).condition = property member.1 := by
  rw [writing]

theorem writing_key (member : Json × DartType) : (writing member).key = member.1.spelling := by
  rw [writing]

theorem writing_value (member : Json × DartType) :
    (writing member).value = member.2.encoding (.name (property member.1)) := by
  rw [writing]

def code (record : RecordClass) : RecordCode where
  className := record.className
  parameters := record.members.map parameter
  read := record.members.map reading
  optional := record.members.map fun member => (member.2.orNull.typeName, property member.1)
  entries := record.members.map writing
  forwarded := record.members.map fun member => (property member.1, .name (property member.1))

section

variable (record : RecordClass)

theorem code_parameters : record.code.parameters = record.members.map parameter := rfl

theorem code_read : record.code.read = record.members.map reading := rfl

theorem code_optional : record.code.optional =
    record.members.map fun member => (member.2.orNull.typeName, property member.1) := rfl

theorem code_entries : record.code.entries = record.members.map writing := rfl

theorem code_forwarded : record.code.forwarded =
    record.members.map fun member => (property member.1, .name (property member.1)) := rfl

theorem code_constructor : record.constructor = record.code.constructor := by
  have hparameters : record.code.parameters.map Parameter.text =
      record.members.map fun member =>
        (if member.2.isNullable then "" else "required ") ++ "this." ++ property member.1 := by
    rw [code_parameters, List.map_map]
    refine List.map_congr_left fun member _ => ?_
    cases hnull : member.2.isNullable <;> simp [Parameter.text, parameter, hnull]
  unfold constructor RecordCode.constructor
  rw [hparameters, ← parameters_eq_listed]
  rfl

theorem code_generateMap : record.generateMap = record.code.generateMap := by
  have hentries : record.code.entries.map MapEntry.text =
      record.members.map fun member => mapEntry member.1 member.2 := by
    rw [code_entries, List.map_map]
    refine List.map_congr_left fun member _ => ?_
    simp only [Function.comp_apply, mapEntry, MapEntry.text, writing, ← DartType.encode_text,
      Expression.text_name]
  have hoptional : record.code.optional.map optionalText = record.optionalParameters := by
    rw [code_optional, optionalParameters, List.map_map]
    refine List.map_congr_left fun member _ => ?_
    simp only [Function.comp_apply, optionalText]
  have hempty : record.code.entries.isEmpty = record.members.isEmpty := by
    rw [code_entries, List.isEmpty_map]
  unfold generateMap RecordCode.generateMap
  rw [hentries, hoptional, hempty, ← parameters_eq_listed, Text.joined_eq_intercalate]

theorem code_toJson : record.toJson = record.code.toJson := by
  have hforwarded : record.code.forwarded.map argumentText =
      forwarded (record.members.map Prod.fst) := by
    rw [code_forwarded, forwarded, List.map_map, List.map_map]
    refine List.map_congr_left fun member _ => ?_
    simp only [Function.comp_apply, argumentText, Expression.text_name]
  unfold toJson RecordCode.toJson
  rw [hforwarded, ← arguments_eq_listed]

theorem code_fromJson : record.fromJson = record.code.fromJson := by
  have hread : record.code.read.map argumentText = record.members.map fun member =>
      property member.1 ++ ": " ++
        member.2.decode ("jsonObject[" ++ literal member.1.spelling ++ "]") := by
    rw [code_read, List.map_map]
    refine List.map_congr_left fun member _ => ?_
    have hentry : "jsonObject[" = "jsonObject" ++ "[" := by simp
    simp only [Function.comp_apply, argumentText, reading, ← DartType.decode_text,
      Expression.text_entry, Expression.text_name, hentry]
  unfold fromJson RecordCode.fromJson
  rw [hread, ← innerArguments_eq_listed]
  rfl

/-- The code of a class is what is written for it. -/
theorem code_text : record.constructor = record.code.constructor ∧
    record.generateMap = record.code.generateMap ∧
    record.toJson = record.code.toJson ∧ record.fromJson = record.code.fromJson :=
  ⟨record.code_constructor, record.code_generateMap, record.code_toJson, record.code_fromJson⟩

/-- The code of a class stands in what is written for it. -/
theorem endsWithSections_source (header extra : List String) :
    EndsWithSections (record.source header extra)
      ([record.code.constructor, record.code.generateMap, record.code.toJson,
        record.code.fromJson, record.copyWith] ++ extra) := by
  rw [← code_constructor, ← code_generateMap, ← code_toJson, ← code_fromJson, source,
    Text.lines_eq_intercalate]
  exact ⟨_, rfl⟩

end

end RecordClass
end Dart
end DartModels
