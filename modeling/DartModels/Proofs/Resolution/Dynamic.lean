import DartModels.Proofs.Resolution.Override

namespace DartModels

open Catalog (labelOf labelOf_int_inj)
open Schema (Event)

namespace Catalog

/-- A name behind so many marks of an array type. -/
def marked : Nat → String → String
  | 0, name => name
  | count + 1, name => "_" ++ marked count name

theorem exists_marked_of_baseName {name bare : String} {count : Nat} (harray : isArrayName name)
    (hbase : baseName name = marked count bare) : name = marked (count + 1) bare := by
  obtain ⟨element, rfl⟩ := isArrayName_iff.mp harray
  rw [baseName_mark_append] at hbase
  rw [hbase, marked]

end Catalog

namespace DartType

/-- A type stands in another one, at any depth. -/
inductive StandsIn : DartType → DartType → Prop where
  | self (type : DartType) : StandsIn type type
  | list {type element : DartType} (h : StandsIn type element) : StandsIn type (.list element)
  | nullable {type inner : DartType} (h : StandsIn type inner) : StandsIn type (.nullable inner)
  | key {type key value : DartType} (h : StandsIn type key) : StandsIn type (.map key value)
  | value {type key value : DartType} (h : StandsIn type value) : StandsIn type (.map key value)
  | compositeField {type : DartType} {name : Json} {fields : List (Json × DartType)}
      {field : Json × DartType} (hfield : field ∈ fields) (h : StandsIn type field.2) :
      StandsIn type (.composite name fields)
  | objectField {type : DartType} {name : Json} {fields : List (Json × DartType)}
      {field : Json × DartType} (hfield : field ∈ fields) (h : StandsIn type field.2) :
      StandsIn type (.object name fields)

theorem composite_notStandsIn_scalar {name : Json} {fields : List (Json × DartType)}
    {keyword : String} : ¬ StandsIn (.composite name fields) (.scalar keyword) := by
  intro h
  cases h

/-- A type that a schema made has no composite type in it. -/
theorem FromSchema.composite_notStandsIn {type : DartType} (htype : type.FromSchema) {name : Json}
    {fields : List (Json × DartType)} : ¬ StandsIn (.composite name fields) type := by
  induction htype with
  | scalar => exact composite_notStandsIn_scalar
  | map =>
    intro h
    cases h with
    | key h => exact composite_notStandsIn_scalar h
    | value h => exact composite_notStandsIn_scalar h
  | list _ ih =>
    intro h
    cases h with
    | list h => exact ih h
  | nullable _ _ ih =>
    intro h
    cases h with
    | nullable h => exact ih h
  | object _ _ ih =>
    intro h
    cases h with
    | objectField hfield h => exact ih _ hfield h

/-- What is built in is neither dynamic nor has a composite type in it. -/
theorem of_builtin? {base : String} {type : DartType} (h : builtin? base = some type) :
    type.unwrap ≠ .dynamic ∧ ∀ name fields, ¬ StandsIn (.composite name fields) type := by
  unfold builtin? at h
  split at h <;> cases h
  all_goals
    refine ⟨by simp [unwrap, dynamic, string, jsonMap], fun name fields hstands => ?_⟩
    cases hstands
  all_goals exact composite_notStandsIn_scalar ‹_›

end DartType

namespace Generator

/-- A note is among some notes, and has this to say. -/
def Noted (notes : List Diagnostic) (note : Diagnostic) (code : String) (subject : Json)
    (context : Json.Members) : Prop :=
  note ∈ notes ∧ note.Says .warning code subject context

/-- It was noted that no rule fits the type of a name, or the type of its elements, or of theirs,
    and so on. -/
def Unmatched (notes : List Diagnostic) (name : Json) : Prop :=
  ∃ type count bare,
    Noted notes (Mapping.noMatchingType type) "no_matching_type" (.text bare) [] ∧
    name = .text (Catalog.marked count bare)

/-- The field of an attribute is dynamic only if it was noted why. -/
structure Explains (types : List CatalogType) (notes : List Diagnostic) (type : CatalogType)
    (part : Attribute) (field : Json × DartType) : Prop where
  name : field.1 = part.name
  dynamic : field.2.unwrap = .dynamic →
    Noted notes (Mapping.unresolvedAttribute type part) "unresolved_attribute" type.name
      [("attribute", part.name)] ∨
    ∃ other ∈ types, other.id = part.typeId ∧ Unmatched notes other.name

/-- A composite type is that of a type of a list, and its dynamic fields are explained. -/
def Explained (types : List CatalogType) (notes : List Diagnostic) (name : Json)
    (fields : List (Json × DartType)) : Prop :=
  ∃ type ∈ types, name = .text type.base ∧
    List.Forall₂ (Explains types notes type) type.attributes fields

variable {types more : List CatalogType} {notes later : List Diagnostic}

theorem Noted.mono {note : Diagnostic} {code : String} {subject : Json} {context : Json.Members}
    (h : Noted notes note code subject context) (hsub : notes ⊆ later) :
    Noted later note code subject context :=
  h.imp_left (hsub ·)

theorem Unmatched.mono {name : Json} (h : Unmatched notes name) (hsub : notes ⊆ later) :
    Unmatched later name := by
  obtain ⟨type, count, bare, hnoted, hname⟩ := h
  exact ⟨type, count, bare, hnoted.mono hsub, hname⟩

theorem Explained.mono {name : Json} {fields : List (Json × DartType)}
    (h : Explained types notes name fields) (htypes : types ⊆ more) (hnotes : notes ⊆ later) :
    Explained more later name fields := by
  obtain ⟨type, htype, hname, hfields⟩ := h
  refine ⟨type, htypes htype, hname, hfields.imp fun part field hfield => ⟨hfield.name, ?_⟩⟩
  intro hdynamic
  rcases hfield.dynamic hdynamic with hnoted | ⟨other, hother, hid, hunmatched⟩
  · exact .inl (hnoted.mono hnotes)
  · exact .inr ⟨other, htypes hother, hid, hunmatched.mono hnotes⟩

/-- What is registered is dynamic, or has dynamic fields in it, only if it was noted why. -/
structure Accounts (types : List CatalogType) (notes : List Diagnostic)
    (entry : CatalogType × DartType) : Prop where
  dynamic : entry.2.unwrap = .dynamic → Unmatched notes entry.1.name
  composite : ∀ name fields, DartType.StandsIn (.composite name fields) entry.2 →
    Explained types notes name fields

theorem Accounts.mono {entry : CatalogType × DartType} (h : Accounts types notes entry)
    (htypes : types ⊆ more) (hnotes : notes ⊆ later) : Accounts more later entry where
  dynamic hdynamic := (h.dynamic hdynamic).mono hnotes
  composite name fields hstands := (h.composite name fields hstands).mono htypes hnotes

variable {locales : List String} {done : List CatalogType} {registry : Registry}
  {declarables : List DartType} {type : CatalogType} {target : DartType} {found : List Diagnostic}

theorem unwrap_wrapped (isArray : Bool) (target : DartType) :
    (Mapping.wrapped isArray target).unwrap = target.unwrap := by
  cases isArray <;> rfl

theorem standsIn_wrapped {isArray : Bool} {name : Json} {fields : List (Json × DartType)}
    (h : DartType.StandsIn (.composite name fields) (Mapping.wrapped isArray target)) :
    DartType.StandsIn (.composite name fields) target := by
  cases isArray with
  | false => exact h
  | true =>
    cases h with
    | list h => exact h

/-- What is neither dynamic nor has a composite type in it needs no account, nor does a list of
    it. -/
theorem accounts_wrapped {isArray : Bool} (hdynamic : target.unwrap ≠ .dynamic)
    (hnone : ∀ name fields, ¬ DartType.StandsIn (.composite name fields) target) :
    Accounts types notes (type, Mapping.wrapped isArray target) where
  dynamic hwrapped := absurd ((unwrap_wrapped isArray target).symm.trans hwrapped) hdynamic
  composite name fields hstands := absurd (standsIn_wrapped hstands) (hnone name fields)

section

variable (h : Settled locales done notes registry declarables)
  (hbefore : ∀ entry ∈ registry.catalogEntries, Accounts done notes entry)
include h hbefore

/-- A field is dynamic because its type is, or because there is none. -/
theorem explains_fieldType {base : String} {part : Attribute} (hpart : part ∈ type.attributes)
    (hpartId : ∃ id, part.typeId = .int id) :
    Explains (done ++ [type])
      (notes ++ (type.attributes.filter (Mapping.isUnresolved type registry)).map
        (Mapping.unresolvedAttribute type)) type part
      (part.name, Mapping.fieldType type base registry part) := by
  refine ⟨rfl, fun hdynamic => ?_⟩
  unfold Mapping.fieldType at hdynamic
  cases hself : part.typeId.equals type.id with
  | true =>
    rw [hself] at hdynamic
    cases hdynamic
  | false =>
    cases hregistered : registry.withId? part.typeId with
    | none =>
      have hunresolved : Mapping.isUnresolved type registry part = true := by
        simp [Mapping.isUnresolved, hself, hregistered]
      refine .inl ⟨List.mem_append_right _ ?_, Mapping.says_unresolvedAttribute type part⟩
      exact List.mem_map_of_mem (List.mem_filter.mpr ⟨hpart, hunresolved⟩)
    | some earlier =>
      rw [hself, hregistered] at hdynamic
      obtain ⟨⟨other, _⟩, hentry, rfl⟩ := Option.map_eq_some_iff.mp hregistered
      obtain ⟨hother, hkey⟩ := h.of_byId_find? hentry
      have hid := (labelOf_int_inj (h.wellTyped other hother).id hpartId).mp hkey
      have haccounts := hbefore _ (Table.mem_values_of_find? hentry)
      exact .inr ⟨other, List.mem_append_left _ hother, hid,
        (haccounts.dynamic hdynamic).mono (List.subset_append_left _ _)⟩

omit h in
/-- A composite type that stands in a field was registered before. -/
theorem explained_of_fieldType {base : String} {part : Attribute} {name : Json}
    {fields : List (Json × DartType)}
    (hstands : DartType.StandsIn (.composite name fields)
      (Mapping.fieldType type base registry part)) : Explained done notes name fields := by
  unfold Mapping.fieldType at hstands
  split at hstands
  · cases hstands
  · cases hregistered : registry.withId? part.typeId with
    | none =>
      rw [hregistered] at hstands
      exact absurd hstands DartType.composite_notStandsIn_scalar
    | some earlier =>
      rw [hregistered] at hstands
      obtain ⟨_, hentry, rfl⟩ := Option.map_eq_some_iff.mp hregistered
      exact (hbefore _ (Table.mem_values_of_find? hentry)).composite name fields hstands

/-- Each rule keeps the account: what is dynamic is so because no rule fits, now or for what the
    target is made of. -/
theorem accounts_of_maps (htype : type.WellTyped)
    (hmaps : Mapping.Maps locales registry type found target) :
    Accounts (done ++ [type]) (notes ++ found) (type, target) := by
  obtain ⟨name, hname⟩ := htype.name
  have hkeep : ∀ {entry}, entry ∈ registry.catalogEntries →
      Accounts (done ++ [type]) (notes ++ found) entry := fun hentry =>
    (hbefore _ hentry).mono (List.subset_append_left _ _) (List.subset_append_left _ _)
  cases hmaps with
  | @element element harray helement =>
    obtain ⟨⟨other, _⟩, hentry, rfl⟩ := Option.map_eq_some_iff.mp helement
    obtain ⟨_, hother, hbyId⟩ := h.of_byName_find? hentry
    have haccounts := hkeep (Table.mem_values_of_find? hbyId)
    constructor
    · intro hdynamic
      obtain ⟨source, count, bare, hnoted, hmarked⟩ := haccounts.dynamic hdynamic
      rw [hother, CatalogType.base_eq hname, Json.text.injEq] at hmarked
      rw [CatalogType.isArray_eq hname] at harray
      refine ⟨source, count + 1, bare, hnoted, ?_⟩
      rw [hname, Catalog.exists_marked_of_baseName harray hmarked]
    · intro name fields hstands
      cases hstands with
      | list hstands => exact haccounts.composite name fields hstands
  | builtin _ hbuiltin =>
    obtain ⟨hnotDynamic, hnone⟩ := DartType.of_builtin? hbuiltin
    exact accounts_wrapped hnotDynamic hnone
  | enum =>
    refine accounts_wrapped (fun hdynamic => ?_) fun name fields hstands => ?_
    · cases hdynamic
    · cases hstands
  | composite =>
    constructor
    · intro hdynamic
      rw [unwrap_wrapped] at hdynamic
      cases hdynamic
    · intro name fields hstands
      cases standsIn_wrapped hstands with
      | self =>
        refine ⟨type, by simp, rfl, ?_⟩
        rw [List.forall₂_map_right_iff, List.forall₂_same]
        exact fun part hpart => explains_fieldType h hbefore hpart (htype.parts part hpart).2
      | compositeField hfield hstands =>
        obtain ⟨part, _, rfl⟩ := List.mem_map.mp hfield
        exact (explained_of_fieldType hbefore hstands).mono (List.subset_append_left _ _)
          (List.subset_append_left _ _)
  | unmatched =>
    constructor
    · intro _
      have hsays := Mapping.says_noMatchingType type
      rw [hname] at hsays
      exact ⟨type, 0, name, ⟨by simp, hsays⟩, hname⟩
    · intro name fields hstands
      exact absurd hstands DartType.composite_notStandsIn_scalar

end

/-- The account is kept from type to type. -/
theorem Settled.accounts (h : Settled locales done notes registry declarables) :
    ∀ entry ∈ registry.catalogEntries, Accounts done notes entry :=
  h.forall_catalogEntries Accounts
    (·.mono (List.subset_append_left _ _) (List.subset_append_left _ _)) accounts_of_maps

end Generator

namespace Registry

/-- All targets that are registered: those of catalog types, and those that schemas give. -/
def targets (registry : Registry) : List DartType :=
  registry.catalogEntries.map Prod.snd ++ registry.derived.values ++ registry.columns.values

/-- Recording events adds only types that the events settle. -/
theorem mem_values_foldl_record {events : List Event} {registry : Registry} {type : DartType}
    (h : type ∈ (events.foldl record registry).derived.values ++
      (events.foldl record registry).columns.values) :
    type ∈ registry.derived.values ++ registry.columns.values ∨
      type ∈ events.filterMap Event.type? := by
  induction events generalizing registry with
  | nil => exact .inl h
  | cons event rest ih =>
    rw [List.foldl_cons] at h
    rcases ih h with h | h
    · cases event with
      | noted => exact .inl h
      | derived name other =>
        rcases List.mem_append.mp h with h | h
        · rcases Table.mem_values_insert h with rfl | h
          · exact .inr (by simp [Event.type?])
          · exact .inl (List.mem_append_left _ h)
        · exact .inl (List.mem_append_right _ h)
      | column label other =>
        rcases List.mem_append.mp h with h | h
        · exact .inl (List.mem_append_left _ h)
        · rcases Table.mem_values_insert h with rfl | h
          · exact .inr (by simp [Event.type?])
          · exact .inl (List.mem_append_right _ h)
    · refine .inr ?_
      rw [List.filterMap_cons]
      split
      · exact h
      · exact List.mem_cons_of_mem _ h

end Registry

namespace Generator

variable {generator : Generator} {snapshot : Snapshot} {resolution : Resolution}

/-- What is entered for array elements, properties and columns is made by schemas. -/
theorem Run.fromSchema_of_mem_values (run : Run generator snapshot resolution) {target : DartType}
    (h : target ∈ resolution.registry.derived.values ++ resolution.registry.columns.values) :
    target.FromSchema := by
  have hschema := run.fromSchema
  rw [run.schemaTypes_eq] at hschema
  rw [run.registry] at h
  obtain ⟨hcolumns, hderived, _⟩ := run.settled.columns_eq
  rcases Registry.mem_values_foldl_record h with h | h
  · simp [hcolumns, hderived, Table.values] at h
  · exact hschema target h

theorem Run.catalogEntries_eq (run : Run generator snapshot resolution) :
    resolution.registry.catalogEntries = run.catalog.catalogEntries := by
  rw [Registry.catalogEntries, run.catalog_eq.1]
  rfl

/-- What is registered in the end is the target of a catalog type, or made by a schema. -/
theorem Run.mem_targets (run : Run generator snapshot resolution) {target : DartType}
    (h : target ∈ resolution.registry.targets) :
    (∃ type, (type, target) ∈ run.catalog.catalogEntries) ∨ target.FromSchema := by
  rw [Registry.targets, List.append_assoc, run.catalogEntries_eq] at h
  rcases List.mem_append.mp h with h | h
  · obtain ⟨⟨type, _⟩, hentry, rfl⟩ := List.mem_map.mp h
    exact .inl ⟨type, hentry⟩
  · exact .inr (run.fromSchema_of_mem_values h)

theorem Run.notes_subset (run : Run generator snapshot resolution) :
    run.notes ⊆ resolution.diagnostics := by
  rw [run.diagnostics]
  exact List.subset_append_of_subset_right _ (List.subset_append_left _ _)

/-- Where nothing is registered for the format of a column, no type has that name, and it was
    noted. -/
theorem Run.typeNotFound_noted (run : Run generator snapshot resolution)
    (htyped : snapshot.WellTyped) (hids : (snapshot.types.map (·.id)).Nodup) {column : Column}
    (hcolumn : column ∈ snapshot.columns)
    (hnone : resolution.registry.findNamed? column.format.spelling = none) :
    (∀ type ∈ snapshot.types, type.name ≠ column.format) ∧
      Catalog.typeNotFound column ∈ resolution.diagnostics := by
  obtain ⟨byName, hbyName⟩ := htyped.catalog.exists_tableBy_name
  have hformat := Catalog.format_eq_text htyped.formats column hcolumn
  cases hfind : byName.find? (.text column.format.spelling) with
  | some type =>
    have hrequired := Catalog.mem_requiredTypes_of_named htyped.catalog hids htyped.formats
      run.requires hbyName hcolumn hfind
    obtain ⟨name, hname⟩ := (htyped.types type (run.mem_types htyped hrequired)).name
    have hkey := (Catalog.mem_of_find?_tableBy hbyName hfind).2
    simp only [hname, Json.key?, Option.some.injEq, Json.Key.text.injEq] at hkey
    obtain ⟨entry, hentry⟩ := run.settled.named hrequired (hkey ▸ hname)
    rw [run.findNamed?_eq, Registry.findNamed?, hentry] at hnone
    cases hnone
  | none =>
    constructor
    · intro type htype hname
      have hmem : Json.Key.text column.format.spelling ∈ byName.keys := by
        refine (Catalog.mem_keys_tableBy hbyName).mpr ⟨type, htype, ?_⟩
        rw [hname, hformat]
        rfl
      rw [← byName.find?_isSome_iff, hfind] at hmem
      cases hmem
    · rw [run.diagnostics]
      exact List.mem_append_left _
        (Catalog.typeNotFound_mem_trace htyped.catalog htyped.formats hbyName hcolumn hfind)

/-- Nothing of a catalog type becomes dynamic without a note that says why. A column that no
    schema types is dynamic, inside its lists, only if no type has the name of its format or no
    rule fits that type or what it is an array of; a field of a composite type only if its
    attribute has no type or no rule fits that type or what it is an array of. Names may be
    shared. -/
theorem dynamic_noted (generator : Generator) (htyped : snapshot.WellTyped)
    (hids : (snapshot.types.map (·.id)).Nodup)
    (hresolve : generator.resolve snapshot = .ok resolution) :
    (∀ column ∈ snapshot.columns,
      (column.holdsJson → resolution.registry.column? column.name = .ok none) →
      ∃ base, column.baseType resolution.registry = .ok base ∧
        (base.unwrap = .dynamic →
          ((∀ type ∈ snapshot.types, type.name ≠ column.format) ∧
            Noted resolution.diagnostics (Catalog.typeNotFound column) "type_not_found"
              column.name [("table", column.table), ("format", column.format)]) ∨
          Unmatched resolution.diagnostics column.format)) ∧
    ∀ target ∈ resolution.registry.targets, ∀ name fields,
      DartType.StandsIn (.composite name fields) target →
        Explained snapshot.types resolution.diagnostics name fields := by
  obtain ⟨run⟩ := (resolve_ends htyped generator).of_eq_ok hresolve
  have haccounts := run.settled.accounts
  constructor
  · intro column hcolumn hplain
    have hcolumnTyped := htyped.columns column hcolumn
    have hoverride : (if column.holdsJson then
        resolution.registry.columns.find? (labelOf column.name).key else none) = none := by
      split
      · next hjson =>
        obtain ⟨name, hname⟩ := hcolumnTyped.name
        have hnone := hplain hjson
        rw [hname] at hnone ⊢
        exact Except.ok.inj hnone
      · rfl
    rw [Column.baseType_eq hcolumnTyped, hoverride]
    refine ⟨_, rfl, fun hdynamic => ?_⟩
    cases hregistered : resolution.registry.findNamed? column.format.spelling with
    | none =>
      obtain ⟨hnone, hnoted⟩ := run.typeNotFound_noted htyped hids hcolumn hregistered
      exact .inl ⟨hnone, hnoted, Catalog.says_typeNotFound column⟩
    | some target =>
      rw [hregistered] at hdynamic
      rw [run.findNamed?_eq] at hregistered
      obtain ⟨⟨type, _⟩, hentry, rfl⟩ := Option.map_eq_some_iff.mp hregistered
      obtain ⟨_, hname, hbyId⟩ := run.settled.of_byName_find? hentry
      have hunmatched := (haccounts _ (Table.mem_values_of_find? hbyId)).dynamic hdynamic
      rw [Catalog.format_eq_text htyped.formats column hcolumn, ← hname]
      exact .inr (hunmatched.mono run.notes_subset)
  · intro target htarget name fields hstands
    rcases run.mem_targets htarget with ⟨type, hentry⟩ | hschema
    · exact ((haccounts _ hentry).composite name fields hstands).mono
        (fun _ => run.mem_types htyped) run.notes_subset
    · exact absurd hstands hschema.composite_notStandsIn

def thingArray : CatalogType := { id := .int 1, name := .text "_thing" }

/-- A box, whose parts are of a type that no rule fits and of a type that is gone. -/
def box : CatalogType :=
  { id := .int 2
    name := .text "box"
    attributes := [⟨.text "things", .int 1⟩, ⟨.text "gone", .int 9⟩] }

def allThings : Column := { tableId := .int 1, name := .text "things", format := .text "_thing" }

def boxes : Snapshot :=
  { schemas := []
    tables := []
    views := []
    columns := [allThings, { allThings with format := .text "box" }]
    types := [box, thingArray] }

/-- All that is dynamic in boxes of things is explained. -/
theorem dynamic_noted_boxes :
    boxes.WellTyped ∧ (boxes.types.map (·.id)).Nodup ∧ ∃ resolution,
      ({} : Generator).resolve boxes = .ok resolution ∧
      allThings.baseType resolution.registry = .ok .dynamic ∧
      Unmatched resolution.diagnostics allThings.format ∧
      Explained boxes.types resolution.diagnostics (.text "box")
        [(.text "things", .dynamic), (.text "gone", .dynamic)] := by
  have hbox : box.WellTyped := by constructor <;> simp [box]
  have hthing : thingArray.WellTyped := by constructor <;> simp [thingArray]
  have htyped : boxes.WellTyped := by
    constructor <;> simp [boxes, hbox, hthing]
    exact ⟨⟨⟨1, rfl⟩, ⟨_, rfl⟩, ⟨_, rfl⟩, .inl rfl⟩, ⟨⟨1, rfl⟩, ⟨_, rfl⟩, ⟨_, rfl⟩, .inl rfl⟩⟩
  have hids : (boxes.types.map (·.id)).Nodup := by simp [boxes, box, thingArray]
  obtain ⟨resolution, hresolve, hthings, htargets⟩ : ∃ resolution,
      ({} : Generator).resolve boxes = .ok resolution ∧
        allThings.baseType resolution.registry = .ok .dynamic ∧
        resolution.registry.targets = [.dynamic, .composite (.text "box")
          [(.text "things", .dynamic), (.text "gone", .dynamic)]] := ⟨_, rfl, rfl, rfl⟩
  obtain ⟨hcolumns, hcomposites⟩ := dynamic_noted {} htyped hids hresolve
  obtain ⟨_, hbase, hexplained⟩ := hcolumns allThings (by simp [boxes]) fun hjson => by
    cases hjson
  cases hbase.symm.trans hthings
  refine ⟨htyped, hids, resolution, hresolve, hthings, ?_,
    hcomposites _ (by rw [htargets]; simp) _ _ (.self _)⟩
  refine (hexplained rfl).resolve_left fun hnone => ?_
  exact hnone.1 thingArray (by simp [boxes]) rfl

end Generator
end DartModels
