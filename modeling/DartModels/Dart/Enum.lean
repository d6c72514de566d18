import DartModels.Dart.Literal
import DartModels.Dart.Type
import DartModels.Text.Joined

namespace DartModels.Dart

/-- An enumeration whose members stand for the values of a database enum. -/
structure EnumClass where
  className : String
  values : List String
  translations : Option Translations

namespace EnumClass

/-- The members, one a line. -/
def members (enum : EnumClass) : String :=
  Text.joined ",\n" (enum.values.map fun value => "  " ++ propertyName value) ++ ";"

/-- The cases that give each member's value. -/
def toJsonCases (enum : EnumClass) : String :=
  Text.lines <| enum.values.map fun value =>
    "      case " ++ enum.className ++ "." ++ propertyName value ++ ":\n        return " ++
      literal value ++ ";"

/-- The cases that give each value's member. -/
def fromJsonCases (enum : EnumClass) : String :=
  Text.lines <| enum.values.map fun value =>
    "      case " ++ literal value ++ ":\n        return " ++ enum.className ++ "." ++
      propertyName value ++ ";"

/-- The labels of one locale, for the values that have one there, in the order of
    the values. -/
def labelLines (enum : EnumClass) (labels : List (String × String)) : List String :=
  enum.values.filterMap fun value =>
    (labels.lookup value).map fun label =>
      "      " ++ literal value ++ ": " ++ literal label ++ ","

/-- The table of one locale. -/
def localeLines (enum : EnumClass) (locale : String) (labels : List (String × String)) :
    List String :=
  ["    " ++ literal locale ++ ": \x7b"] ++ enum.labelLines labels ++ ["    \x7d,"]

/-- The constant that holds all labels, and the method that looks one up. -/
def translationLines (enum : EnumClass) (translations : Translations) : List String :=
  ["  static const Map<String, Map<String, String>> translations = \x7b"] ++
    translations.flatMap (fun (locale, labels) => enum.localeLines locale labels) ++
    ["  \x7d;", "", "  String? label(String locale) => translations[locale]?[toJson()];"]

/-- The section that labels need, which is left out when there are no locales. -/
def translationSection (enum : EnumClass) : List String :=
  match enum.translations with
  | none | some [] => []
  | some translations => "" :: enum.translationLines translations

/-- The pieces of the enumeration, each ending its line. -/
def sourceLines (enum : EnumClass) : List String :=
  ["enum " ++ enum.className ++ " \x7b",
    enum.members,
    "",
    "  String toJson() \x7b",
    "    switch (this) \x7b",
    enum.toJsonCases,
    "    \x7d",
    "  \x7d",
    "",
    "  factory " ++ enum.className ++ ".fromJson(String name) \x7b",
    "    switch (name) \x7b",
    enum.fromJsonCases,
    "    \x7d",
    "    throw ArgumentError.value(name, \"name\", \"No enum value with that name\");",
    "  \x7d"] ++ enum.translationSection ++ ["\x7d"]

/-- The whole enumeration. -/
def source (enum : EnumClass) : String :=
  Text.lines enum.sourceLines

end EnumClass
end DartModels.Dart
