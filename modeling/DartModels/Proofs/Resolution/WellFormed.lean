import DartModels.Proofs.Dart.Naming
import DartModels.Proofs.Resolution.Dynamic
import Mathlib.Data.List.Chain

namespace DartModels

open Schema (Event)

namespace DartType

/-- A type that owes nothing to a schema. A reference stands only for the record that it is a
    field of. -/
inductive FromCatalog : DartType → Prop where
  | scalar {keyword : String} (hkeyword : keyword ∈ keywords) : FromCatalog (.scalar keyword)
  | temporal : FromCatalog .temporal
  | interval : FromCatalog .interval
  | map {key value : String} (hkey : key ∈ keywords) (hvalue : value ∈ keywords) :
      FromCatalog (.map (.scalar key) (.scalar value))
  | list {element : DartType} (helement : FromCatalog element) : FromCatalog (.list element)
  | enum (name : Json) (values : List Json) (labels : Option Translations) :
      FromCatalog (.enum name values labels)
  | composite {name : Json} {fields : List (Json × DartType)}
      (hfields : ∀ field ∈ fields, field.2 ≠ .reference name → FromCatalog field.2) :
      FromCatalog (.composite name fields)

/-- A type as a run makes types. What allows null does so once, and a reference stands only for
    the record that it is a field of. -/
inductive WellFormed : DartType → Prop where
  | scalar {keyword : String} (hkeyword : keyword ∈ keywords) : WellFormed (.scalar keyword)
  | temporal : WellFormed .temporal
  | interval : WellFormed .interval
  | list {element : DartType} (helement : WellFormed element) : WellFormed (.list element)
  | nullable {inner : DartType} (hinner : WellFormed inner) (hplain : inner.isNullable = false) :
      WellFormed (.nullable inner)
  | map {key value : DartType} (hkey : WellFormed key) (hvalue : WellFormed value) :
      WellFormed (.map key value)
  | enum (name : Json) (values : List Json) (labels : Option Translations) :
      WellFormed (.enum name values labels)
  | composite {name : Json} {fields : List (Json × DartType)}
      (hfields : ∀ field ∈ fields, field.2 ≠ .reference name → WellFormed field.2) :
      WellFormed (.composite name fields)
  | object (name : Json) {fields : List (Json × DartType)}
      (hfields : ∀ field ∈ fields, WellFormed field.2) : WellFormed (.object name fields)

variable {type part : DartType}

theorem FromCatalog.of_builtin? {base : String} (h : builtin? base = some type) :
    type.FromCatalog := by
  have hscalar : ∀ keyword ∈ keywords, (DartType.scalar keyword).FromCatalog :=
    fun _ => .scalar
  unfold builtin? at h
  split at h <;> cases h
  all_goals first
    | exact .temporal
    | exact .interval
    | exact hscalar _ (by simp [keywords])
    | exact .map (by simp [keywords]) (by simp [keywords])

theorem FromCatalog.wrapped (h : type.FromCatalog) (isArray : Bool) :
    (Mapping.wrapped isArray type).FromCatalog := by
  cases isArray with
  | false => exact h
  | true => exact .list h

theorem FromCatalog.wellFormed (h : type.FromCatalog) : type.WellFormed := by
  induction h with
  | scalar hkeyword => exact .scalar hkeyword
  | temporal => exact .temporal
  | interval => exact .interval
  | map hkey hvalue => exact .map (.scalar hkey) (.scalar hvalue)
  | list _ ih => exact .list ih
  | enum name values labels => exact .enum name values labels
  | composite _ ih => exact .composite ih

theorem FromSchema.wellFormed (h : type.FromSchema) : type.WellFormed := by
  induction h with
  | scalar hkeyword => exact .scalar hkeyword
  | map hkey hvalue => exact .map (.scalar hkey) (.scalar hvalue)
  | list _ ih => exact .list ih
  | nullable _ hplain ih => exact .nullable ih hplain
  | object name _ ih => exact .object name ih

theorem WellFormed.orNull (h : type.WellFormed) : type.orNull.WellFormed := by
  cases hnull : type.isNullable with
  | false =>
    have hmade : type.orNull = .nullable type := by
      cases type <;> first | rfl | cases hnull
    rw [hmade]
    exact .nullable h hnull
  | true =>
    cases h with
    | nullable hinner hplain => exact .nullable hinner hplain
    | _ => cases hnull

/-- What stands in a well-formed type is well-formed too, apart from references. -/
theorem WellFormed.of_standsIn (h : type.WellFormed) (hstands : StandsIn part type) :
    part.WellFormed ∨ ∃ name, part = .reference name := by
  induction hstands with
  | self => exact .inl h
  | list _ ih =>
    cases h with
    | list helement => exact ih helement
  | nullable _ ih =>
    cases h with
    | nullable hinner => exact ih hinner
  | key _ ih =>
    cases h with
    | map hkey => exact ih hkey
  | value _ ih =>
    cases h with
    | map _ hvalue => exact ih hvalue
  | @compositeField name fields field hfield hstands ih =>
    cases h with
    | composite hfields =>
      by_cases href : field.2 = .reference name
      · rw [href] at hstands
        cases hstands
        exact .inr ⟨name, rfl⟩
      · exact ih (hfields field hfield href)
  | objectField hfield _ ih =>
    cases h with
    | object _ hfields => exact ih (hfields _ hfield)

theorem FromCatalog.kind_notMem (h : type.FromCatalog) (hstands : StandsIn part type) :
    part.kind ∉ ["NullableType", "SchemaDerivedObject"] := by
  induction h with
  | scalar | temporal | interval | enum =>
    cases hstands
    simp [kind]
  | map =>
    cases hstands with
    | self => simp [kind]
    | key hstands | value hstands =>
      cases hstands
      simp [kind]
  | list _ ih =>
    cases hstands with
    | self => simp [kind]
    | list hstands => exact ih hstands
  | @composite name fields _ ih =>
    cases hstands with
    | self => simp [kind]
    | @compositeField _ _ field hfield hstands =>
      by_cases href : field.2 = .reference name
      · rw [href] at hstands
        cases hstands
        simp [kind]
      · exact ih field hfield href hstands

theorem FromSchema.kind_notMem (h : type.FromSchema) (hstands : StandsIn part type) :
    part.kind ∉
      ["EnumType", "CompositeType", "TypeReference", "TemporalType", "IntervalType"] := by
  induction h with
  | scalar =>
    cases hstands
    simp [kind]
  | map =>
    cases hstands with
    | self => simp [kind]
    | key hstands | value hstands =>
      cases hstands
      simp [kind]
  | list _ ih =>
    cases hstands with
    | self => simp [kind]
    | list hstands => exact ih hstands
  | nullable _ _ ih =>
    cases hstands with
    | self => simp [kind]
    | nullable hstands => exact ih hstands
  | object _ _ ih =>
    cases hstands with
    | self => simp [kind]
    | objectField hfield hstands => exact ih _ hfield hstands

/-- Two characters are not both question marks. -/
def Apart (first second : Char) : Prop :=
  ¬(first = '?' ∧ second = '?')

variable {cs ds plain : List Char}

theorem isChain_apart_of_notMem (h : '?' ∉ plain) : plain.IsChain Apart := by
  apply List.Pairwise.isChain
  apply List.pairwise_of_forall_mem_list
  intro first hfirst second _ hmarks
  exact h (hmarks.1 ▸ hfirst)

/-- Something else between two texts keeps their question marks apart. -/
theorem isChain_apart_append (hcs : cs.IsChain Apart) (hds : ds.IsChain Apart)
    (hplain : '?' ∉ plain) (hsome : plain ≠ []) : (cs ++ (plain ++ ds)).IsChain Apart := by
  have hbehind : (plain ++ ds).IsChain Apart := by
    refine List.isChain_append.mpr ⟨isChain_apart_of_notMem hplain, hds, ?_⟩
    intro first hfirst second _ hmarks
    exact hplain (hmarks.1 ▸ List.mem_of_mem_getLast? hfirst)
  refine List.isChain_append.mpr ⟨hcs, hbehind, ?_⟩
  intro first _ second hsecond hmarks
  obtain ⟨c, rest, rfl⟩ := List.exists_cons_of_ne_nil hsome
  cases hsecond
  exact hplain (by simp [hmarks.2])

theorem mark_notMem_classNameOf (name : Json) : '?' ∉ (classNameOf name).toList :=
  fun hmark => absurd (Dart.isAlphanum_of_mem_className _ hmark) (by decide)

theorem mark_notMem_keyword {keyword : String} (hkeyword : keyword ∈ keywords) :
    '?' ∉ keyword.toList := by
  simp only [keywords, List.mem_cons, List.not_mem_nil, or_false] at hkeyword
  rcases hkeyword with rfl | rfl | rfl | rfl | rfl <;> decide

/-- Only the name of a type that allows null ends with a question mark. -/
theorem WellFormed.mark_notMem_getLast? (h : type.WellFormed) (hplain : type.isNullable = false) :
    '?' ∉ type.typeName.toList.getLast? := by
  have hnone {text : String} (htext : '?' ∉ text.toList) : '?' ∉ text.toList.getLast? :=
    fun hlast => htext (List.mem_of_mem_getLast? hlast)
  cases h with
  | scalar hkeyword => exact hnone (mark_notMem_keyword hkeyword)
  | temporal | interval => exact hnone (by decide)
  | enum | composite | object => exact hnone (mark_notMem_classNameOf _)
  | list | map =>
    rw [typeName, String.toList_append, List.getLast?_append]
    simp
  | nullable => cases hplain

/-- Question marks in the name of a well-formed type stand apart. -/
theorem WellFormed.typeName_isChain (h : type.WellFormed) :
    type.typeName.toList.IsChain Apart := by
  induction h with
  | scalar hkeyword => exact isChain_apart_of_notMem (mark_notMem_keyword hkeyword)
  | temporal | interval => exact isChain_apart_of_notMem (by decide)
  | enum | composite | object => exact isChain_apart_of_notMem (mark_notMem_classNameOf _)
  | @list element _ ih =>
    have hclosed : (element.typeName.toList ++ (['>'] ++ [])).IsChain Apart :=
      isChain_apart_append ih .nil (by simp) (by simp)
    have hname : (DartType.list element).typeName.toList =
        [] ++ ("List<".toList ++ (element.typeName.toList ++ (['>'] ++ []))) := by
      simp [typeName]
    rw [hname]
    exact isChain_apart_append .nil hclosed (by simp) (by simp)
  | @nullable inner hinner hplain ih =>
    have hname : (DartType.nullable inner).typeName.toList = inner.typeName.toList ++ ['?'] := by
      simp [typeName]
    rw [hname]
    refine List.isChain_append.mpr ⟨ih, .singleton _, ?_⟩
    intro first hfirst second _ hmarks
    exact hinner.mark_notMem_getLast? hplain (hmarks.1 ▸ hfirst)
  | @map key value _ _ hkey hvalue =>
    have hclosed : (value.typeName.toList ++ (['>'] ++ [])).IsChain Apart :=
      isChain_apart_append hvalue .nil (by simp) (by simp)
    have hboth : (key.typeName.toList ++ (", ".toList ++
        (value.typeName.toList ++ (['>'] ++ [])))).IsChain Apart :=
      isChain_apart_append hkey hclosed (by simp) (by simp)
    have hname : (DartType.map key value).typeName.toList =
        [] ++ ("Map<".toList ++ (key.typeName.toList ++ (", ".toList ++
          (value.typeName.toList ++ (['>'] ++ []))))) := by
      simp [typeName]
    rw [hname]
    exact isChain_apart_append .nil hboth (by simp) (by simp)

/-- No two question marks follow each other in the name of a part of a well-formed type. -/
theorem WellFormed.not_infix_typeName (h : type.WellFormed) (hstands : StandsIn part type) :
    ¬"??".toList <:+: part.typeName.toList := by
  intro hinfix
  have hchain : part.typeName.toList.IsChain Apart := by
    rcases h.of_standsIn hstands with hpart | ⟨name, rfl⟩
    · exact hpart.typeName_isChain
    · exact isChain_apart_of_notMem (mark_notMem_classNameOf name)
  have hmarks := List.IsChain.infix hchain hinfix
  exact List.isChain_pair.mp hmarks ⟨rfl, rfl⟩

end DartType

theorem Mapping.Maps.fromCatalog {locales : List String} {registry : Registry}
    {type : CatalogType} {notes : List Diagnostic} {target : DartType}
    (h : Maps locales registry type notes target)
    (hnamed : ∀ name element, registry.findNamed? name = some element → element.FromCatalog)
    (hid : ∀ id earlier, registry.withId? id = some earlier → earlier.FromCatalog) :
    target.FromCatalog := by
  have hdynamic : DartType.dynamic.FromCatalog := .scalar (by simp [DartType.keywords])
  cases h with
  | element _ helement => exact .list (hnamed _ _ helement)
  | builtin _ hbuiltin => exact (DartType.FromCatalog.of_builtin? hbuiltin).wrapped _
  | enum => exact (DartType.FromCatalog.enum _ _ _).wrapped _
  | composite =>
    refine (DartType.FromCatalog.composite fun field hfield hother => ?_).wrapped _
    obtain ⟨part, _, rfl⟩ := List.mem_map.mp hfield
    unfold fieldType at hother ⊢
    split
    · next hself => exact absurd (if_pos hself) hother
    · cases hregistered : registry.withId? part.typeId with
      | none => exact hdynamic
      | some earlier => exact hid _ _ hregistered
  | unmatched => exact hdynamic

namespace Generator

variable {generator : Generator} {snapshot : Snapshot} {resolution : Resolution}

/-- No schema has a part in what is registered for catalog types. -/
theorem Settled.fromCatalog {locales : List String} {done : List CatalogType}
    {notes : List Diagnostic} {registry : Registry} {declarables : List DartType}
    (h : Settled locales done notes registry declarables) :
    ∀ entry ∈ registry.catalogEntries, entry.2.FromCatalog :=
  h.keeps DartType.FromCatalog Mapping.Maps.fromCatalog

theorem Run.wellFormed_target (run : Run generator snapshot resolution) {target : DartType}
    (h : target ∈ resolution.registry.targets) : target.WellFormed := by
  rcases run.mem_targets h with ⟨type, hentry⟩ | hschema
  · exact (run.settled.fromCatalog _ hentry).wellFormed
  · exact hschema.wellFormed

theorem Run.wellFormed_columnType (run : Run generator snapshot resolution) {column : Column}
    (hcolumn : column.WellTyped) {forInsert : Bool} {type : DartType}
    (htype : column.type resolution.registry forInsert = .ok type) : type.WellFormed := by
  refine run.columnType_keeps DartType.WellFormed DartType.FromSchema.dynamic.wellFormed
    (fun _ => DartType.WellFormed.orNull) (fun name target htarget => ?_)
    (fun other hother checked hchecked => ?_) hcolumn htype
  · obtain ⟨source, _, hentry⟩ := run.settled.mem_catalogEntries_of_findNamed? htarget
    exact (run.settled.fromCatalog _ hentry).wellFormed
  · obtain ⟨_, _, hmade, _⟩ :=
      other.schemaType_eq_ok (Column.checkedType?_eq_some_iff.mp hchecked)
    exact (hmade checked rfl).1.wellFormed

/-- What the check of a column that may be null enters for it allows null. -/
theorem isNullable_of_entered {column : Column} {functions : List String}
    {result : Option DartType} (hresult : (column.schemaType functions).outcome = .ok result)
    (hnullable : column.isNullable) {label : Label} {type : DartType}
    (hentered : Event.column label type ∈ (column.schemaType functions).trace) :
    type.isNullable := by
  obtain ⟨inner, hinner, hmade, htrace⟩ := column.schemaType_eq_ok hresult
  rw [htrace] at hentered
  rcases List.mem_append.mp hentered with hentered | hentered
  · exact absurd (hinner _ hentered) id
  · obtain ⟨own, hown, heq⟩ := List.mem_map.mp hentered
    cases heq
    exact (hmade _ (Option.mem_toList.mp hown)).2.2 hnullable

/-- All types that a run registers or gives to columns are well-formed, so that no name has two
    question marks in a row. What comes from the catalog never allows null and has nothing in it
    that a schema made, what comes from schemas has nothing in it that only the catalog has, and
    a check gives a column that may be null a type that allows it. -/
theorem resolve_wellFormed (generator : Generator) (htyped : snapshot.WellTyped)
    (hresolve : generator.resolve snapshot = .ok resolution) :
    (∀ target ∈ resolution.registry.targets, target.WellFormed ∧
      ∀ part, DartType.StandsIn part target → ¬"??".toList <:+: part.typeName.toList) ∧
    (∀ column ∈ snapshot.columns, ∀ forInsert, ∃ type,
      column.type resolution.registry forInsert = .ok type ∧ type.WellFormed ∧
      ∀ part, DartType.StandsIn part type → ¬"??".toList <:+: part.typeName.toList) ∧
    (∀ entry ∈ resolution.registry.catalogEntries, ∀ part, DartType.StandsIn part entry.2 →
      part.kind ∉ ["NullableType", "SchemaDerivedObject"]) ∧
    (∀ target ∈ resolution.registry.derived.values ++ resolution.registry.columns.values,
      ∀ part, DartType.StandsIn part target →
        part.kind ∉
          ["EnumType", "CompositeType", "TypeReference", "TemporalType", "IntervalType"]) ∧
    ∀ column ∈ snapshot.columns, column.isNullable → ∀ label type,
      Event.column label type ∈ (column.schemaType generator.functions).trace →
        type.isNullable := by
  obtain ⟨run⟩ := (resolve_ends htyped generator).of_eq_ok hresolve
  refine ⟨fun target htarget => ?_, fun column hcolumn forInsert => ?_,
    fun entry hentry part hstands => ?_, fun target htarget part hstands => ?_,
    fun column hcolumn hnullable label type hentered => ?_⟩
  · have hformed := run.wellFormed_target htarget
    exact ⟨hformed, fun part => hformed.not_infix_typeName⟩
  · have hcolumnTyped := htyped.columns column hcolumn
    obtain ⟨type, htype, _⟩ := Column.exists_type hcolumnTyped rfl (fun _ => rfl) forInsert
    have hformed := run.wellFormed_columnType hcolumnTyped htype
    exact ⟨type, htype, hformed, fun part => hformed.not_infix_typeName⟩
  · rw [run.catalogEntries_eq] at hentry
    exact (run.settled.fromCatalog entry hentry).kind_notMem hstands
  · exact (run.fromSchema_of_mem_values htarget).kind_notMem hstands
  · obtain ⟨result, hresult⟩ := run.columns column hcolumn
    exact isNullable_of_entered hresult hnullable hentered

/-- A folder, which may lie in another one. -/
def folder : CatalogType :=
  { id := .int 1
    name := .text "folder"
    attributes := [⟨.text "inside", .int 1⟩, ⟨.text "files", .int 2⟩] }

def fileArray : CatalogType :=
  { id := .int 2, name := .text "_file", enums := [.text "text", .text "image"] }

def lastFolder : Column :=
  { tableId := .int 1, name := .text "last", format := .text "folder" }

def desktop : Snapshot :=
  { schemas := []
    tables := []
    views := []
    columns := [lastFolder]
    types := [folder, fileArray] }

/-- A column that may be null, of a type whose records refer to their own class. -/
theorem resolve_wellFormed_desktop :
    desktop.WellTyped ∧ ∃ resolution, ({} : Generator).resolve desktop = .ok resolution ∧
      ∃ fields, lastFolder.type resolution.registry false =
          .ok (.nullable (.composite (.text "folder") fields)) ∧
        (.text "inside", .reference (.text "folder")) ∈ fields ∧
        (DartType.nullable (.composite (.text "folder") fields)).WellFormed := by
  have hfolder : folder.WellTyped := by constructor <;> simp [folder]
  have hfileArray : fileArray.WellTyped := by constructor <;> simp [fileArray]
  have hlast : lastFolder.WellTyped := ⟨⟨1, rfl⟩, ⟨_, rfl⟩, ⟨_, rfl⟩, .inl rfl⟩
  have htyped : desktop.WellTyped := by
    constructor <;> simp [desktop, hfolder, hfileArray, hlast]
  obtain ⟨resolution, hresolve, fields, htype, hinside⟩ : ∃ resolution,
      ({} : Generator).resolve desktop = .ok resolution ∧
      ∃ fields, lastFolder.type resolution.registry false =
          .ok (.nullable (.composite (.text "folder") fields)) ∧
        fields.head? = some (.text "inside", .reference (.text "folder")) :=
    ⟨_, rfl, _, rfl, rfl⟩
  obtain ⟨_, hcolumns, _⟩ := resolve_wellFormed _ htyped hresolve
  obtain ⟨type, hother, hformed, _⟩ := hcolumns lastFolder (by simp [desktop]) false
  cases hother.symm.trans htype
  exact ⟨htyped, resolution, hresolve, fields, htype, List.mem_of_head? hinside, hformed⟩

end Generator
end DartModels
