import DartModels.Dart.Type
import DartModels.Proofs.Outcome
import DartModels.Schema.Declared

namespace DartModels.Schema

/-- A value is of the type that a name stands for. A name that stands for none asks for
    nothing. -/
def IsOfType (name : String) (value : Json) : Prop :=
  match name with
  | "string" => ∃ text, value = .text text
  | "boolean" => ∃ truth, value = .bool truth
  | "integer" => ∃ number, value = .int number
  | "number" => (∃ number, value = .int number) ∨ ∃ number, value = .float number
  | "null" => value = .null
  | "array" => ∃ items, value = .array items
  | "object" => ∃ members, value = .object members
  | _ => True

/-- A value meets one entry of a `type`. What is no text asks for nothing. -/
def MeetsType : (type value : Json) → Prop
  | .text name, value => IsOfType name value
  | _, _ => True

/-- A value meets a `type`: the one that it is, or one of those that it lists. -/
def MeetsTypes : (type value : Json) → Prop
  | .array types, value => ∃ type ∈ types, MeetsType type value
  | type, value => MeetsType type value

/-- A `type` is no object, and if it is a list then one of texts. -/
def IsPlainType : Json → Prop
  | .array types => ∀ type ∈ types, type.isText
  | .object _ => False
  | _ => True

/-- A schema whose parts have the forms that a schema is written with. -/
inductive Plain : Json → Prop where
  | intro {members : Json.Members} (htype : IsPlainType ((members.lookup "type").getD .null))
      (hrequired : ∀ names, members.lookup "required" = some (.array names) →
        ∀ name ∈ names, name.isText)
      (hproperties : ∀ properties, members.lookup "properties" = some (.object properties) →
        ∀ key property, (key, property) ∈ properties → Plain property)
      (hitems : ∀ items, members.lookup "items" = some items → items ≠ .null → Plain items) :
      Plain (.object members)

/-- A value is valid against a schema, as far as the keywords say that are made use of.
    A keyword of another form asks for nothing, and so does one that speaks of values of
    another kind. -/
inductive Valid : (schema value : Json) → Prop where
  | intro {members : Json.Members} {value : Json}
      (htype : MeetsTypes ((members.lookup "type").getD .null) value)
      (hproperties : ∀ properties, members.lookup "properties" = some (.object properties) →
        ∀ fields, value = .object fields → ∀ key property, (key, property) ∈ properties →
          ∀ field, fields.lookup key = some field → Valid property field)
      (hrequired : ∀ names, members.lookup "required" = some (.array names) →
        ∀ fields, value = .object fields → ∀ key, .text key ∈ names → (fields.lookup key).isSome)
      (hitems : ∀ items, members.lookup "items" = some items → items ≠ .null →
        ∀ elements, value = .array elements → ∀ element ∈ elements, Valid items element) :
      Valid (.object members) value

/-- A value can be held by a type. -/
inductive Conforms : DartType → Json → Prop where
  | string (text : String) : Conforms .string (.text text)
  | bool (truth : Bool) : Conforms (.scalar "bool") (.bool truth)
  | int (number : Int) : Conforms (.scalar "int") (.int number)
  | whole (number : Int) : Conforms (.scalar "double") (.int number)
  | double (number : Binary64) : Conforms (.scalar "double") (.float number)
  | dynamic (value : Json) : Conforms .dynamic value
  | map (key value : DartType) (members : Json.Members) :
      Conforms (.map key value) (.object members)
  | list {element : DartType} {items : List Json} (hitems : ∀ item ∈ items, Conforms element item) :
      Conforms (.list element) (.array items)
  | null (inner : DartType) : Conforms (.nullable inner) .null
  | present {inner : DartType} {value : Json} (hvalue : Conforms inner value) :
      Conforms (.nullable inner) value
  | object (name : Json) {fields : List (Json × DartType)} {members : Json.Members}
      (hfields : ∀ field ∈ fields,
        Conforms field.2 ((members.lookup field.1.spelling).getD .null)) :
      Conforms (.object name fields) (.object members)

theorem Conforms.orNull {type : DartType} {value : Json} (h : Conforms type value) :
    Conforms type.orNull value := by
  cases type with
  | nullable inner => exact h
  | _ => exact .present h

theorem conforms_orNull_null (type : DartType) : Conforms type.orNull .null := by
  cases type <;> exact .null _

theorem isNullType_iff {type : Json} : isNullType type ↔ type = .text "null" := by
  constructor
  · intro h
    unfold isNullType at h
    split at h
    · rfl
    · cases h
  · rintro rfl
    rfl

/-- What is no list is read as a single type. -/
theorem declared_of_notList {type : Json} (htype : ∀ types, type ≠ .array types) :
    declared type = { alternative := .single type, orNull := false } := by
  cases type with
  | array types => exact absurd rfl (htype types)
  | _ => rw [declared]; simp

/-- A list of texts is read as a list of single types, without null. -/
theorem declaredAll_eq {types : List Json} (htypes : ∀ type ∈ types, type.isText) :
    declaredAll types =
      (types.filter (!isNullType ·)).map fun type =>
        { alternative := .single type, orNull := false } := by
  induction types with
  | nil => simp [declaredAll]
  | cons type rest ih =>
    obtain ⟨htype, hrest⟩ := List.forall_mem_cons.mp htypes
    have hlist : ∀ types, type ≠ .array types := by
      rintro types rfl
      cases htype
    rw [declaredAll, ih hrest, declared_of_notList hlist, List.filter_cons]
    cases isNullType type <;> rfl

/-- A list of texts is read as a single type exactly if it has one apart from null. -/
theorem declared_list_single {types : List Json} (htypes : ∀ type ∈ types, type.isText)
    {only : Json} (honly : (declared (.array types)).alternative = .single only) :
    types.filter (!isNullType ·) = [only] ∧
      (declared (.array types)).orNull = types.any isNullType := by
  rw [declared, declaredAll_eq htypes] at honly ⊢
  match hsingles : types.filter (!isNullType ·) with
  | [] => simp [hsingles] at honly
  | [single] =>
    simp only [hsingles, List.map_cons, List.map_nil, Alternative.single.injEq] at honly
    simp [honly]
  | _ :: _ :: _ => simp [hsingles] at honly

/-- Where a plain `type` is read as a single one, that is neither a list nor an object,
    and a value that meets the `type` meets the single one or is the null beside it. -/
theorem declared_single {type only : Json} (hplain : IsPlainType type)
    (honly : (declared type).alternative = .single only) :
    (∀ types, only ≠ .array types) ∧ (∀ members, only ≠ .object members) ∧
      ∀ value, MeetsTypes type value →
        MeetsType only value ∨ (declared type).orNull ∧ value = .null := by
  cases type with
  | array types =>
    obtain ⟨hsingles, hnull⟩ := declared_list_single hplain honly
    have hmem : ∀ type, type ∈ types ∧ isNullType type = false ↔ type = only := by
      intro type
      have hiff : type ∈ types.filter (!isNullType ·) ↔ type ∈ [only] := by rw [hsingles]
      simpa using hiff
    obtain ⟨name, hname⟩ : ∃ name, only = .text name := by
      have htext := hplain only ((hmem only).mpr rfl).1
      cases only with
      | text name => exact ⟨name, rfl⟩
      | _ => cases htext
    refine ⟨by simp [hname], by simp [hname], ?_⟩
    rintro value ⟨type, htype, hvalue⟩
    cases hnullType : isNullType type with
    | true =>
      have heq := isNullType_iff.mp hnullType
      refine .inr ⟨?_, by simpa [heq, MeetsType, IsOfType] using hvalue⟩
      rw [hnull, List.any_eq_true]
      exact ⟨type, htype, hnullType⟩
    | false => exact .inl ((hmem type).mp ⟨htype, hnullType⟩ ▸ hvalue)
  | object members => exact hplain.elim
  | _ =>
    rw [declared_of_notList (by simp)] at honly ⊢
    cases honly
    exact ⟨by simp, by simp, fun value hvalue => .inl hvalue⟩

end DartModels.Schema
