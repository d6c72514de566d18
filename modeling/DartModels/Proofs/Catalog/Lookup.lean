import DartModels.Catalog.Dependency
import DartModels.Proofs.Json.Table
import DartModels.Proofs.Outcome
import Mathlib.Data.List.Find

namespace DartModels.Catalog

/-- A list of types as the database gives it: ids are whole numbers, names are texts,
    and what stands for the type of an attribute can name an entry of a table. -/
structure WellTyped (types : List CatalogType) : Prop where
  ids : ∀ type ∈ types, ∃ id, type.id = .int id
  names : ∀ type ∈ types, ∃ name, type.name = .text name
  parts : ∀ type ∈ types, ∀ part ∈ type.attributes, part.typeId.key?.isSome

/-- A type is the last one of its id in a list. It is the one that counts. -/
def IsLast (types : List CatalogType) (type : CatalogType) : Prop :=
  ∃ before after, types = before ++ type :: after ∧ ∀ later ∈ after, later.id ≠ type.id

theorem IsLast.mem {types : List CatalogType} {type : CatalogType} (h : IsLast types type) :
    type ∈ types := by
  obtain ⟨before, after, rfl, _⟩ := h
  simp

theorem isLast_iff_mem {types : List CatalogType} (hids : (types.map (·.id)).Nodup)
    {type : CatalogType} : IsLast types type ↔ type ∈ types := by
  refine ⟨IsLast.mem, fun hmem => ?_⟩
  obtain ⟨before, after, rfl⟩ := List.append_of_mem hmem
  refine ⟨before, after, rfl, fun later hlater heq => ?_⟩
  simp only [List.map_append, List.map_cons, List.nodup_append, List.nodup_cons] at hids
  exact hids.2.1.1 (heq ▸ List.mem_map_of_mem hlater)

/-- A type is the last one of its name in a list. -/
def IsLastOfName (types : List CatalogType) (type : CatalogType) : Prop :=
  ∃ before after, types = before ++ type :: after ∧ ∀ later ∈ after, later.name ≠ type.name

theorem IsLastOfName.mem {types : List CatalogType} {type : CatalogType}
    (h : IsLastOfName types type) : type ∈ types := by
  obtain ⟨before, after, rfl, _⟩ := h
  simp

theorem isLastOfName_concat_iff {types : List CatalogType} {type last : CatalogType} :
    IsLastOfName (types ++ [last]) type ↔
      type = last ∨ last.name ≠ type.name ∧ IsLastOfName types type := by
  constructor
  · rintro ⟨before, after, heq, hafter⟩
    rcases List.eq_nil_or_concat after with rfl | ⟨after, other, rfl⟩
    · obtain ⟨_, hlast⟩ := List.append_inj' heq rfl
      cases hlast
      exact .inl rfl
    · rw [List.concat_eq_append, ← List.cons_append, ← List.append_assoc] at heq
      obtain ⟨rfl, hlast⟩ := List.append_inj' heq rfl
      cases hlast
      exact .inr ⟨hafter last (by simp), before, after, rfl, fun later hlater =>
        hafter later (by simp [hlater])⟩
  · rintro (rfl | ⟨hother, before, after, rfl, hafter⟩)
    · exact ⟨types, [], rfl, by simp⟩
    · refine ⟨before, after ++ [last], by simp, fun later hlater => ?_⟩
      rcases List.mem_append.mp hlater with hlater | hlater
      · exact hafter later hlater
      · exact List.mem_singleton.mp hlater ▸ hother

theorem exists_isLastOfName {types : List CatalogType} {type : CatalogType}
    (hmem : type ∈ types) : ∃ last, IsLastOfName types last ∧ last.name = type.name := by
  induction types using List.reverseRecOn with
  | nil => simp at hmem
  | append_singleton types other ih =>
    by_cases hname : other.name = type.name
    · exact ⟨other, isLastOfName_concat_iff.mpr (.inl rfl), hname⟩
    · have hmem : type ∈ types := by
        refine (List.mem_append.mp hmem).resolve_right fun hlast => hname ?_
        rw [List.mem_singleton.mp hlast]
      obtain ⟨last, hlast, heq⟩ := ih hmem
      exact ⟨last, isLastOfName_concat_iff.mpr (.inr ⟨heq ▸ hname, hlast⟩), heq⟩

/-- The label of a value that has a key. -/
def labelOf (value : Json) : Label :=
  ⟨value.key?.getD .null, value⟩

theorem labelOf_int_inj {value other : Json} (hvalue : ∃ number, value = .int number)
    (hother : ∃ number, other = .int number) :
    (labelOf value).key = (labelOf other).key ↔ value = other := by
  obtain ⟨number, rfl⟩ := hvalue
  obtain ⟨otherNumber, rfl⟩ := hother
  simp [labelOf, Json.key?]

theorem labelOf_text_inj {value other : Json} (hvalue : ∃ text, value = .text text)
    (hother : ∃ text, other = .text text) :
    (labelOf value).key = (labelOf other).key ↔ value = other := by
  obtain ⟨text, rfl⟩ := hvalue
  obtain ⟨otherText, rfl⟩ := hother
  simp [labelOf, Json.key?]

theorem label_eq_ok_iff (value : Json) (made : Label) :
    label value = .ok made ↔ value.key?.isSome ∧ labelOf value = made := by
  unfold label labelOf Label.of?
  cases value.key? <;> simp

/-- A table is made exactly of types whose parts all have a key, and then it is that of
    the types under these keys. -/
theorem tableBy_eq_ok_iff {part : CatalogType → Json} {types : List CatalogType}
    {table : Table CatalogType} :
    tableBy part types = .ok table ↔
      (∀ type ∈ types, (part type).key?.isSome) ∧
        Table.ofList (types.map fun type => (labelOf (part type), type)) = table := by
  have hstep : ∀ type entry,
      (do return (← label (part type), type) : Except Fault (Label × CatalogType)) = .ok entry ↔
        (part type).key?.isSome ∧ (labelOf (part type), type) = entry := by
    intro type entry
    simp only [bind_eq_ok_iff, label_eq_ok_iff, pure_eq_ok, Except.ok.injEq]
    constructor
    · rintro ⟨made, ⟨hkey, rfl⟩, rfl⟩
      exact ⟨hkey, rfl⟩
    · rintro ⟨hkey, rfl⟩
      exact ⟨_, ⟨hkey, rfl⟩, rfl⟩
  constructor
  · intro h
    obtain ⟨entries, hentries, heq⟩ := bind_eq_ok_iff.mp h
    obtain ⟨hkeys, rfl⟩ := (mapM_eq_ok_map_iff hstep).mp hentries
    cases heq
    exact ⟨hkeys, rfl⟩
  · rintro ⟨hkeys, rfl⟩
    exact bind_eq_ok_iff.mpr ⟨_, (mapM_eq_ok_map_iff hstep).mpr ⟨hkeys, rfl⟩, rfl⟩

section

variable {part : CatalogType → Json} {types : List CatalogType} {table : Table CatalogType}

/-- Of values that types have under the keys of their parts, that of the last type is
    found. -/
theorem find?_ofList_labelOf {β : Type} {value : CatalogType → β}
    (hkeys : ∀ type ∈ types, (part type).key?.isSome) (key : Json.Key) :
    (Table.ofList (types.map fun type => (labelOf (part type), value type))).find? key =
      (types.reverse.find? fun type => (part type).key? == some key).map value := by
  have hsame : ∀ type ∈ types.reverse,
      ((labelOf (part type)).key == key) = ((part type).key? == some key) := by
    intro type htype
    obtain ⟨found, hfound⟩ := Option.isSome_iff_exists.mp (hkeys type (List.mem_reverse.mp htype))
    simp [labelOf, hfound]
  rw [Table.find?_ofList, ← List.map_reverse, List.find?_map, Option.map_map]
  exact congrArg (Option.map value) (List.find?_congr hsame)

/-- A table finds the last type whose part has the key. -/
theorem find?_tableBy (htable : tableBy part types = .ok table) (key : Json.Key) :
    table.find? key = types.reverse.find? fun type => (part type).key? == some key := by
  obtain ⟨hkeys, rfl⟩ := tableBy_eq_ok_iff.mp htable
  rw [find?_ofList_labelOf hkeys]
  exact congrFun Option.map_id _

theorem find?_tableBy_eq_some_iff (htable : tableBy part types = .ok table) {key : Json.Key}
    {type : CatalogType} :
    table.find? key = some type ↔ ∃ before after, types = before ++ type :: after ∧
      (part type).key? = some key ∧ ∀ later ∈ after, (part later).key? ≠ some key := by
  rw [find?_tableBy htable, List.find?_eq_some_iff_append]
  simp only [beq_iff_eq, List.reverse_eq_iff]
  constructor
  · rintro ⟨hkey, after, before, rfl, hafter⟩
    refine ⟨before.reverse, after.reverse, by simp, hkey, fun later hlater => ?_⟩
    simpa using hafter later (List.mem_reverse.mp hlater)
  · rintro ⟨before, after, rfl, hkey, hafter⟩
    refine ⟨hkey, after.reverse, before.reverse, by simp, fun later hlater => ?_⟩
    simpa using hafter later (List.mem_reverse.mp hlater)

theorem mem_of_find?_tableBy (htable : tableBy part types = .ok table) {key : Json.Key}
    {type : CatalogType} (hfind : table.find? key = some type) :
    type ∈ types ∧ (part type).key? = some key := by
  obtain ⟨before, after, rfl, hkey, _⟩ := (find?_tableBy_eq_some_iff htable).mp hfind
  exact ⟨by simp, hkey⟩

/-- Where no two parts share a key, a table finds every type. -/
theorem find?_tableBy_of_nodup (htable : tableBy part types = .ok table)
    (hnodup : (types.map fun type => (part type).key?).Nodup) {key : Json.Key}
    {type : CatalogType} :
    table.find? key = some type ↔ type ∈ types ∧ (part type).key? = some key := by
  refine ⟨mem_of_find?_tableBy htable, fun ⟨hmem, hkey⟩ => ?_⟩
  obtain ⟨before, after, rfl⟩ := List.append_of_mem hmem
  refine (find?_tableBy_eq_some_iff htable).mpr ⟨before, after, rfl, hkey, ?_⟩
  intro later hlater heq
  simp only [List.map_append, List.map_cons, List.nodup_append, List.nodup_cons] at hnodup
  refine hnodup.2.1.1 ?_
  rw [hkey, ← heq]
  exact List.mem_map_of_mem hlater

/-- The keys of a table of types are those of their parts. -/
theorem mem_keys_tableBy (htable : tableBy part types = .ok table) {key : Json.Key} :
    key ∈ table.keys ↔ ∃ type ∈ types, (part type).key? = some key := by
  rw [← Table.find?_isSome_iff, find?_tableBy htable]
  simp

/-- Parts that are told apart by their keys have distinct keys. -/
theorem nodup_key? (hnodup : (types.map part).Nodup)
    (hkeys : ∀ type ∈ types, ∀ other ∈ types, (part type).key? = (part other).key? →
      part type = part other) : (types.map fun type => (part type).key?).Nodup := by
  have hmap := hnodup.map_on (f := Json.key?) fun x hx y hy heq => by
    obtain ⟨type, htype, rfl⟩ := List.mem_map.mp hx
    obtain ⟨other, hother, rfl⟩ := List.mem_map.mp hy
    exact hkeys type htype other hother heq
  rwa [List.map_map] at hmap

end

namespace WellTyped

variable {types : List CatalogType} (htypes : WellTyped types)
include htypes

theorem isSome_key? {type : CatalogType} (htype : type ∈ types) : type.id.key?.isSome := by
  obtain ⟨id, hid⟩ := htypes.ids type htype
  simp [hid, Json.key?]

theorem exists_key {type : CatalogType} (htype : type ∈ types) :
    ∃ key, type.id.key? = some key :=
  Option.isSome_iff_exists.mp (htypes.isSome_key? htype)

theorem exists_tableBy_id : ∃ byId, tableBy (·.id) types = .ok byId :=
  ⟨_, tableBy_eq_ok_iff.mpr ⟨fun _ => htypes.isSome_key?, rfl⟩⟩

theorem exists_tableBy_name : ∃ byName, tableBy (·.name) types = .ok byName := by
  refine ⟨_, tableBy_eq_ok_iff.mpr ⟨fun type htype => ?_, rfl⟩⟩
  obtain ⟨name, hname⟩ := htypes.names type htype
  simp [hname, Json.key?]

/-- The key of an id tells which id it is. -/
theorem id_eq_iff {type other : CatalogType} (htype : type ∈ types) (hother : other ∈ types) :
    type.id = other.id ↔ type.id.key? = other.id.key? := by
  obtain ⟨id, hid⟩ := htypes.ids type htype
  obtain ⟨otherId, hother⟩ := htypes.ids other hother
  simp [hid, hother, Json.key?]

/-- Where ids are distinct, the key of an id tells which type it is. -/
theorem eq_of_key?_eq (hids : (types.map (·.id)).Nodup) {type other : CatalogType}
    (htype : type ∈ types) (hother : other ∈ types) (hkey : type.id.key? = other.id.key?) :
    type = other := by
  apply List.inj_on_of_nodup_map hids htype hother
  exact (htypes.id_eq_iff htype hother).mpr hkey

theorem nodup_ids (hids : (types.map (·.id)).Nodup) : (types.map (·.id.key?)).Nodup :=
  nodup_key? hids fun _ htype _ hother h => (htypes.id_eq_iff htype hother).mpr h

theorem nodup_names (hnames : (types.map (·.name)).Nodup) : (types.map (·.name.key?)).Nodup := by
  refine nodup_key? hnames fun type htype other hother h => ?_
  obtain ⟨name, hname⟩ := htypes.names type htype
  obtain ⟨otherName, hother⟩ := htypes.names other hother
  simpa [hname, hother, Json.key?] using h

theorem subset {some : List CatalogType} (hsub : ∀ type ∈ some, type ∈ types) : WellTyped some where
  ids type htype := htypes.ids type (hsub type htype)
  names type htype := htypes.names type (hsub type htype)
  parts type htype := htypes.parts type (hsub type htype)

/-- Where names are distinct, a text finds the type of that name. -/
theorem find?_name_iff (hnames : (types.map (·.name)).Nodup) {byName : Table CatalogType}
    (hbyName : tableBy (·.name) types = .ok byName) {name : String} {type : CatalogType} :
    byName.find? (.text name) = some type ↔ type ∈ types ∧ type.name = .text name := by
  rw [find?_tableBy_of_nodup hbyName (htypes.nodup_names hnames)]
  refine and_congr_right fun htype => ?_
  obtain ⟨typeName, htypeName⟩ := htypes.names type htype
  simp [htypeName, Json.key?]

end WellTyped

end DartModels.Catalog
