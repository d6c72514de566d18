import DartModels.Dart.Type

namespace DartModels

namespace Json

theorem same_text_iff {value other : Json} (hvalue : ∃ text, value = .text text)
    (hother : ∃ text, other = .text text) : value.same other ↔ value = other := by
  obtain ⟨text, rfl⟩ := hvalue
  obtain ⟨otherText, rfl⟩ := hother
  simp [Json.same, Json.key?]

theorem sameItems_text_iff {values others : List Json}
    (hvalues : ∀ value ∈ values, ∃ text, value = .text text)
    (hothers : ∀ value ∈ others, ∃ text, value = .text text) :
    sameItems values others ↔ values = others := by
  induction values generalizing others with
  | nil => cases others <;> simp [sameItems]
  | cons value values ih =>
    cases others with
    | nil => simp [sameItems]
    | cons other others =>
      rw [List.forall_mem_cons] at hvalues hothers
      rw [sameItems, Bool.and_eq_true, same_text_iff hvalues.1 hothers.1,
        ih hvalues.2 hothers.2, List.cons.injEq]

end Json

open Json (same_text_iff sameItems_text_iff)

namespace DartType

/-- A type whose names, and the values of whose enums, are texts. -/
inductive Textual : DartType → Prop where
  | scalar (keyword : String) : Textual (.scalar keyword)
  | temporal : Textual .temporal
  | interval : Textual .interval
  | list {element : DartType} (helement : Textual element) : Textual (.list element)
  | nullable {inner : DartType} (hinner : Textual inner) : Textual (.nullable inner)
  | map {key value : DartType} (hkey : Textual key) (hvalue : Textual value) :
      Textual (.map key value)
  | enum {name : Json} {values : List Json} (labels : Option Translations)
      (hname : ∃ text, name = .text text) (hvalues : ∀ value ∈ values, ∃ text, value = .text text) :
      Textual (.enum name values labels)
  | composite {name : Json} {fields : List (Json × DartType)} (hname : ∃ text, name = .text text)
      (hkeys : ∀ field ∈ fields, ∃ text, field.1 = .text text)
      (hfields : ∀ field ∈ fields, Textual field.2) : Textual (.composite name fields)
  | object {name : Json} {fields : List (Json × DartType)} (hname : ∃ text, name = .text text)
      (hkeys : ∀ field ∈ fields, ∃ text, field.1 = .text text)
      (hfields : ∀ field ∈ fields, Textual field.2) : Textual (.object name fields)
  | reference {name : Json} (hname : ∃ text, name = .text text) : Textual (.reference name)

mutual

/-- A type without the labels of the enums in it, which are no part of its identity. -/
def unlabelled : DartType → DartType
  | .list element => .list (unlabelled element)
  | .nullable inner => .nullable (unlabelled inner)
  | .map key value => .map (unlabelled key) (unlabelled value)
  | .enum name values _ => .enum name values none
  | .composite name fields => .composite name (unlabelledFields fields)
  | .object name fields => .object name (unlabelledFields fields)
  | type => type

def unlabelledFields : List (Json × DartType) → List (Json × DartType)
  | [] => []
  | (key, type) :: fields => (key, unlabelled type) :: unlabelledFields fields

end

theorem sameFields_iff {fields others : List (Json × DartType)}
    (hkeys : ∀ field ∈ fields, ∃ text, field.1 = .text text)
    (hotherKeys : ∀ field ∈ others, ∃ text, field.1 = .text text)
    (htypes : ∀ field ∈ fields, ∀ other ∈ others,
      field.2.same other.2 ↔ field.2.unlabelled = other.2.unlabelled) :
    sameFields fields others ↔ unlabelledFields fields = unlabelledFields others := by
  induction fields generalizing others with
  | nil => cases others <;> simp [sameFields, unlabelledFields]
  | cons field fields ih =>
    obtain ⟨key, type⟩ := field
    cases others with
    | nil => simp [sameFields, unlabelledFields]
    | cons other others =>
      obtain ⟨otherKey, otherType⟩ := other
      simp only [List.forall_mem_cons] at hkeys hotherKeys htypes
      have hrest := ih hkeys.2 hotherKeys.2 fun field hfield other hother =>
        (htypes.2 field hfield).2 other hother
      simp only [sameFields, unlabelledFields, Bool.and_eq_true, List.cons.injEq, Prod.mk.injEq,
        same_text_iff hkeys.1 hotherKeys.1, htypes.1.1, hrest]

/-- Types made of texts are the same exactly if they differ in labels at most. So to be the same
    is an equivalence of them. -/
theorem Textual.same_iff {type other : DartType} (htype : type.Textual) (hother : other.Textual) :
    type.same other ↔ type.unlabelled = other.unlabelled := by
  induction htype generalizing other with
  | list _ ih =>
    cases hother with
    | list helement => simpa [same, unlabelled] using ih helement
    | _ => simp [same, unlabelled]
  | nullable _ ih =>
    cases hother with
    | nullable hinner => simpa [same, unlabelled] using ih hinner
    | _ => simp [same, unlabelled]
  | map _ _ ihkey ihvalue =>
    cases hother with
    | map hkey hvalue => simp [same, unlabelled, ihkey hkey, ihvalue hvalue]
    | _ => simp [same, unlabelled]
  | enum _ hname hvalues =>
    cases hother with
    | enum _ hotherName hotherValues =>
      simp [same, unlabelled, same_text_iff hname hotherName,
        sameItems_text_iff hvalues hotherValues]
    | _ => simp [same, unlabelled]
  | composite hname hkeys _ ih =>
    cases hother with
    | composite hotherName hotherKeys hotherFields =>
      have hfields := sameFields_iff hkeys hotherKeys fun field hfield other hother =>
        ih field hfield (hotherFields other hother)
      simp [same, unlabelled, same_text_iff hname hotherName, hfields]
    | _ => simp [same, unlabelled]
  | object hname hkeys _ ih =>
    cases hother with
    | object hotherName hotherKeys hotherFields =>
      have hfields := sameFields_iff hkeys hotherKeys fun field hfield other hother =>
        ih field hfield (hotherFields other hother)
      simp [same, unlabelled, same_text_iff hname hotherName, hfields]
    | _ => simp [same, unlabelled]
  | reference hname =>
    cases hother with
    | reference hotherName => simp [same, unlabelled, same_text_iff hname hotherName]
    | _ => simp [same, unlabelled]
  | _ => cases hother <;> simp [same, unlabelled]

end DartType
end DartModels
