import DartModels.Proofs.Resolution.Independence
import DartModels.Proofs.Resolution.RecordOrder

namespace DartModels.Generator

open SchemaRecord (Holds)

variable {generator : Generator} {snapshot : Snapshot} {resolution : Resolution}
  {type : CatalogType} {registry : Registry} {target : DartType}

theorem declaredBy_of_builtin? {base : String} (h : DartType.builtin? base = some target) :
    declaredBy target = [] := by
  unfold DartType.builtin? at h
  split at h <;> cases h <;> rfl

/-- What a type adds to the declarations has the class of its name, and an array type adds
    nothing. -/
theorem declaredBy_sublist_of_maps (htype : type.WellTyped) {locales : List String}
    {found : List Diagnostic} (hmaps : Mapping.Maps locales registry type found target) :
    ((declaredBy target).map DartType.declaredClass?).Sublist
      (([type].filter (!·.isArray)).map fun type => some (DartType.classNameOf type.name)) := by
  obtain ⟨name, hname⟩ := htype.name
  cases harray : type.isArray with
  | true =>
    -- Every rule wraps what it makes in a list, and no list is declared.
    have hnone : declaredBy target = [] := by
      cases hmaps with
      | element => rfl
      | builtin => rw [harray]; rfl
      | enum => rw [harray]; rfl
      | composite => rw [harray]; rfl
      | unmatched => rfl
    rw [hnone]
    exact List.nil_sublist _
  | false =>
    have hkept : [type].filter (!·.isArray) = [type] := by simp [harray]
    rw [hkept, List.map_singleton, ← CatalogType.text_base_eq hname harray]
    cases hmaps with
    | element hmark => rw [harray] at hmark; cases hmark
    | builtin _ hbuiltin =>
      rw [harray, Mapping.wrapped, if_neg (by simp), declaredBy_of_builtin? hbuiltin]
      exact List.nil_sublist _
    | enum => rw [harray]; exact List.Sublist.refl _
    | composite => rw [harray]; exact List.Sublist.refl _
    | unmatched => exact List.nil_sublist _

/-- The declarations of settled types have the classes of those of them that are no arrays, in
    order and each at most once. -/
theorem Settled.declaredClasses_sublist {locales : List String} {done : List CatalogType}
    {notes : List Diagnostic} {declarables : List DartType}
    (h : Settled locales done notes registry declarables) :
    (declarables.map DartType.declaredClass?).Sublist
      ((done.filter (!·.isArray)).map fun type => some (DartType.classNameOf type.name)) := by
  induction h with
  | nil => exact List.nil_sublist _
  | @concat _ _ registry _ type _ _ _ htype _ htarget ih =>
    rw [List.map_append, List.filter_append, List.map_append]
    exact ih.append (declaredBy_sublist_of_maps htype (Mapping.maps_of_target htype htarget))

section

variable (run : Run generator snapshot resolution)
include run

/-- Where the classes of the types in the catalog are told apart, those of enums and composite
    types are declared once. -/
theorem Run.nodup_declared (htyped : snapshot.WellTyped)
    (hclasses : ((snapshot.types.filter (!·.isArray)).map
      fun type => DartType.classNameOf type.name).Nodup) :
    (run.declared.map DartType.declaredClass?).Nodup := by
  apply run.settled.declaredClasses_sublist.nodup
  apply ((run.requiredTypes_nodup htyped).of_map.filter _).map_on
  intro type htype other hother hsame
  have hmem : ∀ {type : CatalogType}, type ∈ resolution.requiredTypes.filter (!·.isArray) →
      type ∈ snapshot.types.filter (!·.isArray) := by
    intro type htype
    rw [List.mem_filter] at htype ⊢
    exact ⟨run.mem_types htyped htype.1, htype.2⟩
  exact List.inj_on_of_nodup_map hclasses (hmem htype) (hmem hother) (Option.some.inj hsame)

theorem Run.nodup_records : (run.records.map SchemaRecord.className).Nodup := by
  rw [Registry.schemaRecords_eq_ok run.schemaRecords]
  exact SchemaRecord.nodup_classes (SchemaRecord.picks_firstOfClass _)

/-- The records are those of the classes that the types from schemas have inside them. -/
theorem Run.mem_recordClasses_iff {className : String} :
    className ∈ run.records.map SchemaRecord.className ↔
      ∃ type ∈ resolution.registry.schemaTypes, ∃ record, Holds type record ∧
        record.className = className := by
  have hpicks := SchemaRecord.picks_firstOfClass
    (resolution.registry.schemaTypes.flatMap SchemaRecord.within)
  rw [← Registry.schemaRecords_eq_ok run.schemaRecords] at hpicks
  have hwithin : ∀ record, record ∈ resolution.registry.schemaTypes.flatMap SchemaRecord.within ↔
      ∃ type ∈ resolution.registry.schemaTypes, Holds type record := by
    intro record
    rw [List.mem_flatMap]
    exact exists_congr fun type => and_congr_right fun _ =>
      (SchemaRecord.visits_within type).mem_iff
  rw [List.mem_map]
  constructor
  · rintro ⟨record, hrecord, rfl⟩
    obtain ⟨type, htype, hholds⟩ := (hwithin record).mp (hpicks.subset hrecord)
    exact ⟨type, htype, record, hholds, rfl⟩
  · rintro ⟨type, htype, record, hholds, rfl⟩
    exact SchemaRecord.exists_picked_of_class hpicks record
      ((hwithin record).mpr ⟨type, htype, hholds⟩)

end

theorem declaredClass?_toType (record : SchemaRecord) :
    record.toType.declaredClass? = some record.className :=
  rfl

/-- A class is declared twice only if it is that of an enum or a composite type and that of a
    record from a schema too. The enums and composite types have the classes of required types
    that are no arrays, and where the catalog tells these classes apart they are declared once.
    So are the records, one for each class of a record inside a type that a schema gave. -/
theorem declarables_classes (generator : Generator) (htyped : snapshot.WellTyped)
    (hclasses : ((snapshot.types.filter (!·.isArray)).map
      fun type => DartType.classNameOf type.name).Nodup)
    (hresolve : generator.resolve snapshot = .ok resolution) :
    ∃ (declared : List DartType) (records : List SchemaRecord),
      resolution.declarables = declared ++ records.map SchemaRecord.toType ∧
      (∀ type ∈ declared, ∃ source ∈ resolution.requiredTypes, source.isArray = false ∧
        type.declaredClass? = some (DartType.classNameOf source.name)) ∧
      (declared.map DartType.declaredClass?).Nodup ∧
      (records.map SchemaRecord.className).Nodup ∧
      (∀ className, className ∈ records.map SchemaRecord.className ↔
        ∃ type ∈ resolution.registry.schemaTypes, ∃ record, Holds type record ∧
          record.className = className) ∧
      ((resolution.declarables.map DartType.declaredClass?).Nodup ↔
        ∀ type ∈ declared, ∀ record ∈ records,
          type.declaredClass? ≠ some record.className) := by
  obtain ⟨run⟩ := (resolve_ends htyped generator).of_eq_ok hresolve
  have hdeclared := run.nodup_declared htyped hclasses
  have hrecords := run.nodup_records
  refine ⟨run.declared, run.records, run.declarables, ?_, hdeclared, hrecords,
    fun _ => run.mem_recordClasses_iff, ?_⟩
  · intro type htype
    obtain ⟨source, hsource, hclass⟩ := List.mem_map.mp
      (run.settled.declaredClasses_sublist.subset (List.mem_map_of_mem htype))
    rw [List.mem_filter, Bool.not_eq_true'] at hsource
    exact ⟨source, hsource.1, hsource.2, hclass.symm⟩
  · have hsome : (run.records.map fun record => record.toType.declaredClass?).Nodup := by
      have hmapped := hrecords.map (f := some) fun _ _ => Option.some.inj
      rwa [List.map_map] at hmapped
    rw [run.declarables, List.map_append, List.map_map, List.nodup_append]
    constructor
    · rintro ⟨_, _, hapart⟩ type htype record hrecord
      exact hapart _ (List.mem_map_of_mem htype) _
        (List.mem_map.mpr ⟨record, hrecord, declaredClass?_toType record⟩)
    · intro hapart
      refine ⟨hdeclared, hsome, fun _ hclass _ hother => ?_⟩
      obtain ⟨type, htype, rfl⟩ := List.mem_map.mp hclass
      obtain ⟨record, hrecord, rfl⟩ := List.mem_map.mp hother
      exact hapart type htype record hrecord

def textType : CatalogType := { id := .int 25, name := .text "text" }

def settings : CatalogType :=
  { id := .int 1, name := .text "settings", attributes := [⟨.text "theme", .int 25⟩] }

def savedSettings : Column :=
  { tableId := .int 1, name := .text "saved", format := .text "settings" }

/-- A column of JSON by the name of a composite type. -/
def checkedSettings : Column :=
  { tableId := .int 1
    name := .text "settings"
    format := .text "jsonb"
    check := .text ("fits('\x7b\"type\":\"object\",\"required\":[\"theme\"]," ++
      "\"properties\":\x7b\"theme\":\x7b\"type\":\"string\"\x7d\x7d\x7d')") }

def profiles : Snapshot :=
  { schemas := []
    tables := []
    views := []
    columns := [savedSettings, checkedSettings]
    types := [settings, textType, jsonbType] }

def fitting : Generator := { functions := ["fits"] }

/-- The classes that the declarations of a run are declared as. -/
def declaredClasses? (generator : Generator) (snapshot : Snapshot) :
    Option (List (Option String)) :=
  match generator.resolve snapshot with
  | .error _ => none
  | .ok resolution => some (resolution.declarables.map DartType.declaredClass?)

theorem declaredClasses?_eq_some {snapshot : Snapshot} {classes : List (Option String)}
    (h : declaredClasses? generator snapshot = some classes) :
    ∃ resolution, generator.resolve snapshot = .ok resolution ∧
      resolution.declarables.map DartType.declaredClass? = classes := by
  unfold declaredClasses? at h
  cases hresolve : generator.resolve snapshot with
  | error failure => simp [hresolve] at h
  | ok resolution => exact ⟨resolution, rfl, by simpa [hresolve] using h⟩

/-- A composite type and the record of a column are declared as one class. -/
theorem settings_declared_twice :
    profiles.WellTyped ∧ ∃ resolution, fitting.resolve profiles = .ok resolution ∧
      ¬(resolution.declarables.map DartType.declaredClass?).Nodup ∧
      ∃ type ∈ resolution.declarables, ∃ schemaType ∈ resolution.registry.schemaTypes,
        ∃ record, Holds schemaType record ∧ type.declaredClass? = some record.className := by
  have hsettings : settings.WellTyped := by constructor <;> simp [settings]
  have htext : textType.WellTyped := by constructor <;> simp [textType]
  have hjsonb : jsonbType.WellTyped := by constructor <;> simp [jsonbType]
  have hsaved : savedSettings.WellTyped := ⟨⟨1, rfl⟩, ⟨_, rfl⟩, ⟨_, rfl⟩, .inl rfl⟩
  have hchecked : checkedSettings.WellTyped := ⟨⟨1, rfl⟩, ⟨_, rfl⟩, ⟨_, rfl⟩, .inr ⟨_, rfl⟩⟩
  have htyped : profiles.WellTyped := by
    constructor <;> simp [profiles, hsettings, htext, hjsonb, hsaved, hchecked]
  obtain ⟨resolution, hresolve, htwice⟩ := declaredClasses?_eq_some
    (by decide +kernel :
      declaredClasses? fitting profiles = some [some "Settings", some "Settings"])
  have hclasses : ((profiles.types.filter (!·.isArray)).map
      fun type => DartType.classNameOf type.name).Nodup := by decide +kernel
  obtain ⟨declared, records, hdeclarables, _, _, _, hrecords, hnodup⟩ :=
    declarables_classes fitting htyped hclasses hresolve
  have hrepeated : ¬(resolution.declarables.map DartType.declaredClass?).Nodup := by
    rw [htwice]
    decide
  rw [hnodup] at hrepeated
  push Not at hrepeated
  obtain ⟨type, htype, record, hrecord, hclass⟩ := hrepeated
  obtain ⟨schemaType, hschemaType, other, hholds, hsame⟩ :=
    (hrecords record.className).mp (List.mem_map_of_mem hrecord)
  refine ⟨htyped, resolution, hresolve, by rw [htwice]; decide, type, ?_, schemaType, hschemaType,
    other, hholds, hsame ▸ hclass⟩
  rw [hdeclarables]
  exact List.mem_append_left _ htype

end DartModels.Generator
