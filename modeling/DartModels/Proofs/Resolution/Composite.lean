import DartModels.Proofs.Resolution.Run

namespace DartModels

open Catalog (labelOf)

/-- An attribute refers to another type that a list does not have. -/
def Attribute.isMissing (types : List CatalogType) (type : CatalogType) (part : Attribute) : Bool :=
  !part.typeId.equals type.id && !types.any fun other => other.id.equals part.typeId

/-- The field of an attribute of a type: the type itself stands there by its name, another
    type of the catalog by what it is registered as. -/
structure IsFieldOf (types : List CatalogType) (registry : Registry) (type : CatalogType)
    (part : Attribute) (field : Json × DartType) : Prop where
  name : field.1 = part.name
  own : part.typeId = type.id → field.2 = .reference type.name
  registered : part.typeId ≠ type.id → (∃ other ∈ types, other.id = part.typeId) →
    registry.find? part.typeId = .ok (some field.2)
  missing : part.typeId ≠ type.id → (∀ other ∈ types, other.id ≠ part.typeId) →
    field.2 = .dynamic

theorem equals_iff {value id : Json} (hvalue : ∃ number, value = .int number)
    (hid : ∃ number, id = .int number) : value.equals id ↔ value = id := by
  obtain ⟨number, rfl⟩ := hvalue
  obtain ⟨otherNumber, rfl⟩ := hid
  simp [Catalog.equals_int, Json.key?]

namespace Generator

variable {generator : Generator} {snapshot : Snapshot} {resolution : Resolution}

section

variable (htyped : snapshot.WellTyped) {run : Run generator snapshot resolution}
  {before after : List CatalogType} {type : CatalogType}
  (hrequired : resolution.requiredTypes = before ++ type :: after) (step : Step run before type)
include htyped hrequired

/-- A type that the catalog has for an attribute of a type that is no array is registered
    before that type is settled. -/
theorem registered_before_plain (hplain : type.isArray = false) {part : Attribute}
    (hpart : part ∈ type.attributes) {other : CatalogType} (hother : other ∈ snapshot.types)
    (hrefers : other.id = part.typeId) (hself : part.typeId ≠ type.id) :
    ∃ target, step.registry.withId? part.typeId = some target ∧
      resolution.registry.withId? part.typeId = some target := by
  obtain ⟨needed, hneeded, hpair⟩ := Catalog.attribute_before_plain htyped.catalog htyped.formats
    run.requires (by rw [hrequired]; simp) hplain hpart hother
    (congrArg Json.key? hrefers.symm) (hrefers ▸ hself)
  have hids := run.requiredTypes_nodup htyped
  rw [hrequired] at hids hpair
  rw [← hrefers, ← hneeded]
  exact step.withId?_eq ((Catalog.pair_sublist_iff_mem hids.of_map).mp hpair)

theorem isFieldOf_fieldType (htype : type.WellTyped) (hplain : type.isArray = false)
    {part : Attribute} (hpart : part ∈ type.attributes) :
    IsFieldOf snapshot.types resolution.registry type part
      (part.name, Mapping.fieldType type type.base step.registry part) := by
  obtain ⟨number, hnumber⟩ := (htype.parts part hpart).2
  obtain ⟨name, hname⟩ := htype.name
  have hself := equals_iff ⟨number, hnumber⟩ htype.id
  unfold Mapping.fieldType
  constructor
  · rfl
  · intro hown
    rw [if_pos (hself.mpr hown), CatalogType.text_base_eq hname hplain]
  · rintro hother ⟨other, hmem, hrefers⟩
    obtain ⟨target, hbefore, hafter⟩ :=
      registered_before_plain htyped hrequired step hplain hpart hmem hrefers hother
    rw [if_neg (hself.not.mpr hother), hbefore]
    rw [hnumber] at hafter ⊢
    rw [Registry.find?_int, hafter]
    rfl
  · intro hother hmissing
    rw [if_neg (hself.not.mpr hother),
      step.withId?_eq_none_of_missing htyped hrequired ⟨number, hnumber⟩ hmissing]
    rfl

/-- What is noted about a record are the attributes for which the catalog has no type. -/
theorem isUnresolved_eq (htype : type.WellTyped) (hplain : type.isArray = false)
    {part : Attribute} (hpart : part ∈ type.attributes) :
    Mapping.isUnresolved type step.registry part = part.isMissing snapshot.types type := by
  have hpartId := (htype.parts part hpart).2
  have hself := equals_iff hpartId htype.id
  unfold Mapping.isUnresolved Attribute.isMissing
  by_cases hown : part.typeId = type.id
  · rw [hself.mpr hown]
    rfl
  · rw [Bool.eq_false_iff.mpr (hself.not.mpr hown), Bool.not_false, Bool.true_and, Bool.true_and]
    by_cases hmissing : ∀ other ∈ snapshot.types, other.id ≠ part.typeId
    · rw [step.withId?_eq_none_of_missing htyped hrequired hpartId hmissing]
      have hnone : (snapshot.types.any fun other => other.id.equals part.typeId) = false := by
        rw [List.any_eq_false]
        exact fun other hother =>
          (equals_iff (htyped.types other hother).id hpartId).not.mpr (hmissing other hother)
      rw [hnone]
      rfl
    · push Not at hmissing
      obtain ⟨other, hother, hrefers⟩ := hmissing
      obtain ⟨target, htarget, _⟩ :=
        registered_before_plain htyped hrequired step hplain hpart hother hrefers hown
      have hsome : (snapshot.types.any fun other => other.id.equals part.typeId) = true :=
        List.any_eq_true.mpr
          ⟨other, hother, (equals_iff (htyped.types other hother).id hpartId).mpr hrefers⟩
      rw [htarget, hsome]
      rfl

end

/-- No type is registered twice, and a record has the fields that its type calls for. Each
    field has the type that its attribute is registered as, the record itself stands in it by
    its name, and the attributes for which the catalog has no type, and only these, are noted,
    in order. Names may be shared. -/
theorem composite_fields (generator : Generator) (htyped : snapshot.WellTyped) :
    (∀ name, generator.resolve snapshot ≠ .error (.problem (.alreadyRegistered name))) ∧
    ∀ resolution, generator.resolve snapshot = .ok resolution →
    ∀ before type after, resolution.requiredTypes = before ++ type :: after →
    type.isArray = false → ∀ name fields,
    resolution.registry.find? type.id = .ok (some (.composite name fields)) →
      name = type.name ∧
      List.Forall₂ (IsFieldOf snapshot.types resolution.registry type) type.attributes fields ∧
      ∃ earlier registry declarables later,
        before.foldlM generator.settleType ({}, []) = ⟨earlier, .ok (registry, declarables)⟩ ∧
        Mapping.target generator.locales registry type =
          ⟨(type.attributes.filter (Attribute.isMissing snapshot.types type)).map
            (Mapping.unresolvedAttribute type), .ok (.composite name fields)⟩ ∧
        (∀ part, (Mapping.unresolvedAttribute type part).Says .warning "unresolved_attribute"
          type.name [("attribute", part.name)]) ∧
        resolution.diagnostics =
          (Catalog.requiredTypes snapshot.types snapshot.columns).trace ++ earlier ++
            (type.attributes.filter (Attribute.isMissing snapshot.types type)).map
              (Mapping.unresolvedAttribute type) ++ later := by
  have hends := resolve_ends htyped generator
  constructor
  · intro name hfailed
    rcases hends.of_eq_error hfailed with ⟨_, _, hcircle⟩ | ⟨_, hfault⟩
    · cases hcircle
    · cases hfault
  · intro resolution hresolve before type after hrequired hplain name fields hfind
    obtain ⟨run⟩ := hends.of_eq_ok hresolve
    obtain ⟨step⟩ := run.exists_step hrequired
    have htype : type.WellTyped :=
      htyped.types type (run.mem_types htyped (by rw [hrequired]; simp))
    obtain ⟨typeName, htypeName⟩ := htype.name
    -- The record is what the step of the type registered, and only one rule makes records.
    have htarget : step.target = .composite name fields := by
      obtain ⟨id, hid⟩ := htype.id
      have hentry := step.entry
      rw [hid] at hfind hentry
      rw [Registry.find?_int, Registry.withId?, hentry] at hfind
      simpa using hfind
    have hrule := Mapping.maps_of_target htype step.maps
    rw [htarget] at hrule
    obtain ⟨rfl, rfl, hfound⟩ := hrule.of_composite hplain
    rw [List.filter_congr fun part hpart =>
      isUnresolved_eq htyped hrequired step htype hplain hpart] at hfound
    refine ⟨CatalogType.text_base_eq htypeName hplain, ?_, step.earlier, step.registry,
      step.declared, step.later ++ run.later, step.settled.foldlM_eq, ?_,
      Mapping.says_unresolvedAttribute type, ?_⟩
    · rw [List.forall₂_map_right_iff, List.forall₂_same]
      exact fun part hpart => isFieldOf_fieldType htyped hrequired step htype hplain hpart
    · rw [step.maps, hfound, htarget]
    · rw [run.diagnostics, step.notes, hfound]
      simp only [List.append_assoc]

def textArray : CatalogType := { id := .int 1009, name := .text "_text" }

/-- A person, who has a boss, some nicknames and a part whose type is gone. -/
def person : CatalogType :=
  { id := .int 7
    name := .text "person"
    attributes := [⟨.text "boss", .int 7⟩, ⟨.text "nicknames", .int 1009⟩, ⟨.text "gone", .int 5⟩] }

def people : Snapshot :=
  { schemas := []
    tables := []
    views := []
    columns := [{ tableId := .int 1, name := .text "who", format := .text "person" }]
    types := [person, textArray] }

/-- The fields of a person, nicknames included, whose type is an array. -/
theorem composite_fields_person :
    people.WellTyped ∧ ∃ resolution, ({} : Generator).resolve people = .ok resolution ∧
      resolution.requiredTypes = [textArray, person] ∧
      ∃ name fields, resolution.registry.find? person.id = .ok (some (.composite name fields)) ∧
        List.Forall₂ (IsFieldOf people.types resolution.registry person)
          person.attributes fields := by
  have hperson : person.WellTyped := by constructor <;> simp [person]
  have htextArray : textArray.WellTyped := by constructor <;> simp [textArray]
  have htyped : people.WellTyped := by
    constructor <;> simp [people, hperson, htextArray]
    exact ⟨⟨1, rfl⟩, ⟨_, rfl⟩, ⟨_, rfl⟩, .inl rfl⟩
  refine ⟨htyped, _, rfl, rfl, _, _, rfl, ?_⟩
  exact ((composite_fields {} htyped).2 _ rfl [textArray] person [] rfl (by decide) _ _ rfl).2.1

end Generator
end DartModels
