import DartModels.Dart.Type

namespace DartModels.DartType

/-- A type makes use of a class: by itself, or through lists, null, maps and the fields of
    records. -/
inductive Mentions : DartType → String → Prop where
  | list {element : DartType} {className : String} (h : Mentions element className) :
      Mentions (.list element) className
  | nullable {inner : DartType} {className : String} (h : Mentions inner className) :
      Mentions (.nullable inner) className
  | key {key value : DartType} {className : String} (h : Mentions key className) :
      Mentions (.map key value) className
  | value {key value : DartType} {className : String} (h : Mentions value className) :
      Mentions (.map key value) className
  | enum (name : Json) (values : List Json) (labels : Option Translations) :
      Mentions (.enum name values labels) (classNameOf name)
  | composite (name : Json) (fields : List (Json × DartType)) :
      Mentions (.composite name fields) (classNameOf name)
  | compositeField {name : Json} {fields : List (Json × DartType)} {field : Json × DartType}
      {className : String} (hfield : field ∈ fields) (h : Mentions field.2 className) :
      Mentions (.composite name fields) className
  | object (name : Json) (fields : List (Json × DartType)) :
      Mentions (.object name fields) (classNameOf name)
  | objectField {name : Json} {fields : List (Json × DartType)} {field : Json × DartType}
      {className : String} (hfield : field ∈ fields) (h : Mentions field.2 className) :
      Mentions (.object name fields) className
  | reference (name : Json) : Mentions (.reference name) (classNameOf name)

/-- The class that a type is declared as. -/
def declaredClass? : DartType → Option String
  | .enum name _ _ | .composite name _ | .object name _ => some (classNameOf name)
  | _ => none

variable {type : DartType} {className : String}

theorem not_mentions_scalar {keyword : String} : ¬ (scalar keyword).Mentions className := by
  intro h
  cases h

theorem mentions_orNull_iff : type.orNull.Mentions className ↔ type.Mentions className := by
  cases type with
  | nullable inner => exact Iff.rfl
  | _ => exact ⟨fun h => by cases h; assumption, .nullable⟩

theorem not_mentions_jsonMap : ¬ jsonMap.Mentions className := by
  intro h
  cases h with
  | key h => exact not_mentions_scalar h
  | value h => exact not_mentions_scalar h

/-- What is built in makes use of no class. -/
theorem not_mentions_of_builtin? {name : String} (h : builtin? name = some type) :
    ¬ type.Mentions className := by
  unfold builtin? at h
  split at h <;> cases h
  all_goals first
    | exact not_mentions_scalar
    | exact not_mentions_jsonMap
    | exact fun hmentions => nomatch hmentions

end DartModels.DartType
