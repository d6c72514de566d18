import DartModels.Proofs.Catalog.Lookup
import DartModels.Proofs.Traced
import DartModels.Resolution.SchemaColumn

namespace DartModels

/-- The keywords that types are named by. -/
def DartType.keywords : List String :=
  ["bool", "double", "dynamic", "int", "String"]

/-- A type that owes nothing to the catalog. -/
inductive DartType.FromSchema : DartType → Prop where
  | scalar {keyword : String} (hkeyword : keyword ∈ keywords) : FromSchema (.scalar keyword)
  | map {key value : String} (hkey : key ∈ keywords) (hvalue : value ∈ keywords) :
      FromSchema (.map (.scalar key) (.scalar value))
  | list {element : DartType} (helement : FromSchema element) : FromSchema (.list element)
  | nullable {inner : DartType} (hinner : FromSchema inner) (hplain : inner.isNullable = false) :
      FromSchema (.nullable inner)
  | object (name : Json) {fields : List (Json × DartType)}
      (hfields : ∀ field ∈ fields, FromSchema field.2) : FromSchema (.object name fields)

theorem DartType.FromSchema.dynamic : dynamic.FromSchema :=
  .scalar (by simp [keywords])

theorem DartType.FromSchema.jsonMap : jsonMap.FromSchema :=
  .map (by simp [keywords]) (by simp [keywords])

theorem DartType.FromSchema.orNull {type : DartType} (h : type.FromSchema) :
    type.orNull.FromSchema := by
  cases h with
  | nullable hinner hplain => exact .nullable hinner hplain
  | scalar hkeyword => exact .nullable (.scalar hkeyword) rfl
  | map hkey hvalue => exact .nullable (.map hkey hvalue) rfl
  | list helement => exact .nullable (.list helement) rfl
  | object name hfields => exact .nullable (.object name hfields) rfl

theorem DartType.isNullable_orNull (type : DartType) : type.orNull.isNullable := by
  cases type <;> rfl

theorem DartType.FromSchema.ite {condition : Prop} [Decidable condition] {type other : DartType}
    (htype : type.FromSchema) (hother : other.FromSchema) :
    (if condition then type else other).FromSchema := by
  split
  · exact htype
  · exact hother

namespace Schema

/-- What may happen while a schema is typed: no column is settled. -/
def Event.IsInner : Event → Prop
  | .noted _ => True
  | .derived _ type => type.FromSchema
  | .column _ _ => False

theorem fromSchema_of_primitive? {spelling : String} {type : DartType}
    (h : primitive? spelling = some type) : type.FromSchema := by
  unfold primitive? at h
  split at h <;> cases h
  · exact .scalar (by simp [DartType.keywords])
  · exact .scalar (by simp [DartType.keywords])
  · exact .scalar (by simp [DartType.keywords])
  · exact .scalar (by simp [DartType.keywords])
  · exact DartType.FromSchema.dynamic.orNull

theorem plainType_keeps (type name : Json) :
    (plainType type name).Keeps Event.IsInner DartType.FromSchema := by
  unfold plainType
  split
  · exact .lift trivial
  · exact .lift trivial
  · split
    · next h => exact .pure (fromSchema_of_primitive? h)
    · exact (Traced.Keeps.tell trivial).bind fun _ _ => .pure .dynamic
  · exact (Traced.Keeps.tell trivial).bind fun _ _ => .pure .dynamic

theorem tell_derived_keeps (name : String) {type : DartType} (htype : type.FromSchema) :
    (Traced.tell (.derived name type) : Typed Unit).Keeps Event.IsInner fun _ => True :=
  .tell htype

/-- Typing a schema settles no column, and all that it settles is made from the schema. -/
theorem typeOf_keeps (schema name : Json) :
    (typeOf schema name).Keeps Event.IsInner DartType.FromSchema := by
  have hfinish : ∀ (orNull : Bool) {type : DartType}, type.FromSchema →
      (pure (if orNull then type.orNull else type) : Typed DartType).Keeps Event.IsInner
        DartType.FromSchema :=
    fun _ _ htype => .pure (.ite htype.orNull htype)
  match schema with
  | .object members =>
    -- By what the schema declares: nothing, several types, an array, a record, any other type.
    rw [typeOf]
    split
    · exact hfinish _ DartType.FromSchema.dynamic.orNull
    · exact (Traced.Keeps.tell trivial).bind fun _ _ => hfinish _ .dynamic
    · split
      · exact (plainType_keeps _ name).bind fun _ => hfinish _
      · exact (plainType_keeps _ name).bind fun _ => hfinish _
      · next items _ hlookup =>
        have hsize : sizeOf items < sizeOf (Json.object members) := by
          have := sizeOf_lookup hlookup
          simp
          omega
        refine (typeOf_keeps items _).bind fun element helement => ?_
        have hlist : (DartType.list element).FromSchema := .list helement
        dsimp only
        split
        · exact (tell_derived_keeps _ helement).bind fun _ _ => hfinish _ hlist
        · exact hfinish _ hlist
    · split
      · next properties hlookup =>
        split
        · exact (Traced.Keeps.tell trivial).bind fun _ _ => hfinish _ .jsonMap
        · refine (Traced.Keeps.lift (Ends.trivial _)).bind fun keys _ => ?_
          refine (Traced.Keeps.mapM ?_).bind
            fun fields (hfields : ∀ field ∈ fields, field.2.FromSchema) =>
              hfinish _ (.object name hfields)
          rintro ⟨⟨key, property⟩, hmem⟩ _
          have hsize : sizeOf property < sizeOf (Json.object members) := by
            have := sizeOf_lookup hlookup
            have := List.sizeOf_lt_of_mem hmem
            simp at *
            omega
          refine (typeOf_keeps property _).bind fun type htype => ?_
          have hfield : (if keys.contains (.text key) then type else type.orNull).FromSchema :=
            .ite htype htype.orNull
          exact (tell_derived_keeps key hfield).bind fun _ _ => .pure hfield
      · exact (plainType_keeps _ name).bind fun _ => hfinish _
    · exact (plainType_keeps _ name).bind fun _ => hfinish _
  | .null | .bool _ | .int _ | .float _ | .text _ | .array _ =>
    rw [typeOf]
    · exact (Traced.Keeps.tell trivial).bind fun _ _ => .pure .jsonMap
    · simp
termination_by sizeOf schema
decreasing_by
  · exact hsize
  · exact hsize

end Schema

open Schema

/-- What the check of a column settles: whatever is inside its schema, and in the end the
    column itself, if the check gives it a type. -/
theorem Column.schemaType_eq_ok {column : Column} {functions : List String}
    {result : Option DartType} (h : (column.schemaType functions).outcome = .ok result) :
    ∃ inner, (∀ event ∈ inner, event.IsInner) ∧
      (∀ type ∈ result, type.FromSchema ∧ type.isSpellable ∧
        (column.isNullable → type.isNullable)) ∧
      (column.schemaType functions).trace =
        inner ++ result.toList.map (.column (Catalog.labelOf column.name)) := by
  unfold schemaType at h ⊢
  split at h
  · next hcheck =>
    rw [if_pos hcheck]
    have hnotes : ∀ notes : List Diagnostic, ∀ event ∈ notes.map Event.noted, event.IsInner := by
      intro notes event hevent
      obtain ⟨note, _, rfl⟩ := List.mem_map.mp hevent
      trivial
    generalize Constraint.extractFrom functions column.name column.check = extracted at h ⊢
    obtain ⟨notes, schema⟩ := extracted
    -- The check either fails, or has no schema in it, or has one.
    obtain _ | _ | members := schema
    · cases h
    · cases h
      exact ⟨notes.map .noted, hnotes notes, by simp, rfl⟩
    · have hkeeps := typeOf_keeps (.object members) column.name
      simp only [Traced.mapTrace, Traced.mk_ok_bind] at h ⊢
      generalize typeOf (.object members) column.name = typed at h hkeeps ⊢
      obtain ⟨events, type⟩ := typed
      obtain ⟨hevents, htype⟩ := hkeeps
      cases type with
      | error fault => cases h
      | ok type =>
        simp only [Traced.mk_ok_bind] at h ⊢
        have hcolumn : (if column.isNullable then type.orNull else type).FromSchema :=
          .ite htype.orNull htype
        have hnull : column.isNullable →
            (if column.isNullable then type.orNull else type).isNullable := fun hnullable => by
          rw [if_pos hnullable]
          exact type.isNullable_orNull
        generalize (if column.isNullable then type.orNull else type) = type at h hcolumn hnull ⊢
        cases hlabel : Catalog.label column.name with
        | error fault =>
          rw [hlabel] at h
          cases h
        | ok label =>
          obtain ⟨_, rfl⟩ := (Catalog.label_eq_ok_iff _ _).mp hlabel
          rw [hlabel] at h
          simp only [Traced.lift_ok_bind] at h ⊢
          split at h
          · next hspellable =>
            cases h
            rw [if_pos hspellable]
            refine ⟨notes.map .noted ++ events, ?_,
              by simpa using ⟨hcolumn, hspellable, hnull⟩, by simp; rfl⟩
            intro event hevent
            rcases List.mem_append.mp hevent with hevent | hevent
            · exact hnotes notes event hevent
            · exact hevents event hevent
          · cases h
  · next hcheck =>
    rw [if_neg hcheck]
    cases h
    exact ⟨[], by simp, by simp, rfl⟩

end DartModels
