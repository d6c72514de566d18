import DartModels.Catalog.Snapshot
import DartModels.Proofs.Outcome
import DartModels.Proofs.Text.Lines

namespace DartModels.Snapshot

/-- An entry has a member for each of some keys. -/
def HasKeys (keys : List String) (entry : Json.Members) : Prop :=
  ∀ key ∈ keys, (entry.lookup key).isSome

instance (keys : List String) (entry : Json.Members) : Decidable (HasKeys keys entry) :=
  inferInstanceAs (Decidable (∀ key ∈ keys, (entry.lookup key).isSome))

/-- The member of an entry, or a default where there is none. -/
def Given (entry : Json.Members) (key : String) (default value : Json) : Prop :=
  entry.lookup key = some value ∨ entry.lookup key = none ∧ value = default

/-- The member of an entry, or a default where there is none or it does not count as given. -/
def GivenTruthy (entry : Json.Members) (key : String) (default value : Json) : Prop :=
  entry.lookup key = some value ∧ value.isTruthy ∨
    (∀ member, entry.lookup key = some member → member.isTruthy = false) ∧ value = default

/-- The truth of the member of an entry, or of a default where there is none. -/
def GivenFlag (entry : Json.Members) (key : String) (default flag : Bool) : Prop :=
  ∃ value, Given entry key (.bool default) value ∧ flag = value.isTruthy

/-- The items that an entry lists. A member that does not count as given lists none. -/
inductive Lists (entry : Json.Members) (key : String) : List Json → Prop where
  | given {items : List Json} (h : entry.lookup key = some (.array items)) : Lists entry key items
  | none (h : ∀ member, entry.lookup key = some member → member.isTruthy = false) :
      Lists entry key []

structure ReadsSchema (entry : Json.Members) (schema : Schema) : Prop where
  id : Given entry "id" (.int 0) schema.id
  name : entry.lookup "name" = some schema.name

structure ReadsRelation (entry : Json.Members) (relation : Relation) : Prop where
  id : entry.lookup "id" = some relation.id
  name : entry.lookup "name" = some relation.name
  schema : Given entry "schema" (.text "public") relation.schema
  comment : Given entry "comment" .null relation.comment

structure ReadsColumn (entry : Json.Members) (column : Column) : Prop where
  tableId : entry.lookup "table_id" = some column.tableId
  name : entry.lookup "name" = some column.name
  format : entry.lookup "format" = some column.format
  dataType : GivenTruthy entry "data_type" (.text "") column.dataType
  isNullable : GivenFlag entry "is_nullable" true column.isNullable
  isGenerated : GivenFlag entry "is_generated" false column.isGenerated
  isIdentity : GivenFlag entry "is_identity" false column.isIdentity
  defaultValue : Given entry "default_value" .null column.defaultValue
  check : Given entry "check" .null column.check
  schema : Given entry "schema" (.text "public") column.schema
  table : Given entry "table" (.text "") column.table
  comment : Given entry "comment" .null column.comment

inductive ReadsAttribute : Json → Attribute → Prop where
  | intro {entry : Json.Members} {attr : Attribute} (hname : entry.lookup "name" = some attr.name)
      (htypeId : entry.lookup "type_id" = some attr.typeId) : ReadsAttribute (.object entry) attr

structure ReadsType (entry : Json.Members) (type : CatalogType) : Prop where
  id : entry.lookup "id" = some type.id
  name : entry.lookup "name" = some type.name
  schema : Given entry "schema" (.text "public") type.schema
  format : GivenTruthy entry "format" (.text "") type.format
  enums : Lists entry "enums" type.enums
  attributes : ∃ items, Lists entry "attributes" items ∧
    List.Forall₂ ReadsAttribute items type.attributes
  comment : Given entry "comment" .null type.comment

/-- The entries of a part. A part that is not there has none. -/
inductive Holds (members : Json.Members) (part : Part) : List Json.Members → Prop where
  | absent (h : members.lookup part.name = none) : Holds members part []
  | given {entries : List Json.Members}
      (h : members.lookup part.name = some (.array (entries.map .object))) :
      Holds members part entries

/-- A part of a snapshot has one record for each entry, in order. -/
def ReadsPart {α : Type} (members : Json.Members) (part : Part) (reads : Json.Members → α → Prop)
    (records : List α) : Prop :=
  ∃ entries, Holds members part entries ∧ List.Forall₂ reads entries records

/-- A snapshot has what the members of a value say. -/
structure Reads (members : Json.Members) (snapshot : Snapshot) : Prop where
  schemas : ReadsPart members .schemas ReadsSchema snapshot.schemas
  tables : ReadsPart members .tables ReadsRelation snapshot.tables
  views : ReadsPart members .views ReadsRelation snapshot.views
  columns : ReadsPart members .columns ReadsColumn snapshot.columns
  types : ReadsPart members .types ReadsType snapshot.types

/-- An entry of a part has all required keys, and so have the attributes of a type. -/
structure IsComplete (part : Part) (entry : Json.Members) : Prop where
  keys : HasKeys part.requiredKeys entry
  attributes : part = .types → ∀ items, entry.lookup "attributes" = some (.array items) →
    ∀ attr, .object attr ∈ items → HasKeys attributeKeys attr

/-- A part is a list of complete entries, if it is there. -/
def IsSound (members : Json.Members) (part : Part) : Prop :=
  ∃ entries, Holds members part entries ∧ ∀ entry ∈ entries, IsComplete part entry

/-- A value is an object with sound parts. -/
def WellFormed (value : Json) : Prop :=
  ∃ members, value = .object members ∧ ∀ part, IsSound members part

/-- What is said about an entry that lacks keys. -/
def lacking (kind : String) (keys : List String) (entry : Json.Members) : Malformation :=
  .missingKeys kind ((entry.lookup "name").getD (.text "<unnamed>")) (missingKeys entry keys)

/-- What is wrong with an entry of a part: its own keys come before those of its attributes. -/
inductive EntryFault : Part → Json.Members → Malformation → Prop where
  | keys {part : Part} {entry : Json.Members} (hkeys : ¬ HasKeys part.requiredKeys entry) :
      EntryFault part entry (lacking part.kind part.requiredKeys entry)
  | attributes {entry attr : Json.Members} {done rest : List Json}
      (hkeys : HasKeys Part.types.requiredKeys entry)
      (hitems : entry.lookup "attributes" = some (.array (done ++ .object attr :: rest)))
      (hdone : ∀ other, .object other ∈ done → HasKeys attributeKeys other)
      (hattr : ¬ HasKeys attributeKeys attr) :
      EntryFault .types entry (lacking "attribute" attributeKeys attr)

/-- What is wrong with a part: that it is no list of objects comes before what is wrong with
    the first entry that is not complete. -/
inductive PartFault (members : Json.Members) (part : Part) : Malformation → Prop where
  | notList {value : Json} (hgiven : members.lookup part.name = some value)
      (hlist : ∀ items, value ≠ .array items) : PartFault members part (.notList part)
  | entryNotObject {items : List Json} {item : Json}
      (hgiven : members.lookup part.name = some (.array items)) (hitem : item ∈ items)
      (hobject : ∀ entry, item ≠ .object entry) : PartFault members part (.entryNotObject part)
  | entry {done rest : List Json.Members} {entry : Json.Members} {malformation : Malformation}
      (hgiven : members.lookup part.name = some (.array ((done ++ entry :: rest).map .object)))
      (hdone : ∀ other ∈ done, IsComplete part other)
      (hentry : EntryFault part entry malformation) : PartFault members part malformation

/-- The parts in the order in which they are read. -/
def parts : List Part :=
  [.schemas, .tables, .views, .columns, .types]

/-- What is wrong with a value: the fault of the first part that has one. -/
inductive FirstFault : Json → Malformation → Prop where
  | notObject {value : Json} (hobject : ∀ members, value ≠ .object members) :
      FirstFault value .notObject
  | part {members : Json.Members} {before after : List Part} {part : Part}
      {malformation : Malformation} (hparts : parts = before ++ part :: after)
      (hbefore : ∀ other ∈ before, IsSound members other)
      (hpart : PartFault members part malformation) : FirstFault (.object members) malformation

/-- The attributes of a type, if they count as given, are a list of objects, and its values a
    list. -/
structure IsRegularType (entry : Json.Members) : Prop where
  attributes : ∀ value, entry.lookup "attributes" = some value → value.isTruthy →
    ∃ attributes : List Json.Members, value = .array (attributes.map .object)
  enums : ∀ value, entry.lookup "enums" = some value → value.isTruthy →
    ∃ items, value = .array items

/-- A value whose types are regular, if it has any. -/
def IsRegular (value : Json) : Prop :=
  ∀ members, value = .object members →
    ∀ items, members.lookup Part.types.name = some (.array items) →
      ∀ entry, .object entry ∈ items → IsRegularType entry

section

variable {entry : Json.Members} {key : String} {keys : List String}

theorem missingKeys_eq_nil_iff : missingKeys entry keys = [] ↔ HasKeys keys entry := by
  simp [missingKeys, HasKeys, List.filter_eq_nil_iff, Option.isSome_iff_ne_none]

theorem given_member (entry : Json.Members) (key : String) (default : Json) :
    Given entry key default (member entry key default) := by
  unfold Given member
  cases entry.lookup key with
  | none => exact .inr ⟨rfl, rfl⟩
  | some value => exact .inl rfl

theorem HasKeys.lookup (h : HasKeys keys entry) (hkey : key ∈ keys) (default : Json) :
    entry.lookup key = some (member entry key default) := by
  obtain ⟨value, hvalue⟩ := Option.isSome_iff_exists.mp (h key hkey)
  rw [member, hvalue, Option.getD_some]

theorem givenTruthy_orElse (entry : Json.Members) (key : String) (default : Json) :
    GivenTruthy entry key default ((member entry key .null).orElse default) := by
  unfold member Json.orElse
  cases hlookup : entry.lookup key with
  | none => exact .inr ⟨by simp [hlookup], rfl⟩
  | some value =>
    rw [Option.getD_some]
    cases htruthy : value.isTruthy with
    | true => exact .inl ⟨hlookup, htruthy⟩
    | false => exact .inr ⟨by simp [hlookup, htruthy], rfl⟩

theorem givenFlag_isTruthy (entry : Json.Members) (key : String) (default : Bool) :
    GivenFlag entry key default (member entry key (.bool default)).isTruthy :=
  ⟨_, given_member entry key (.bool default), rfl⟩

theorem require_ends (kind : String) (keys : List String) (entry : Json.Members) :
    Ends (fun _ => HasKeys keys entry)
      (fun failure => failure = .malformed (lacking kind keys entry) ∧ ¬ HasKeys keys entry)
      (require kind keys entry) := by
  unfold require
  split
  · next hmissing => exact missingKeys_eq_nil_iff.mp hmissing
  · next hmissing =>
    exact ⟨rfl, fun hkeys => hmissing (missingKeys_eq_nil_iff.mpr hkeys)⟩

theorem require_part_ends (part : Part) (entry : Json.Members) :
    Ends (fun _ => HasKeys part.requiredKeys entry)
      (fun failure => ∃ m, failure = .malformed m ∧ EntryFault part entry m)
      (require part.kind part.requiredKeys entry) :=
  (require_ends part.kind part.requiredKeys entry).imp (fun _ h => h)
    fun _ ⟨heq, hkeys⟩ => ⟨_, heq, .keys hkeys⟩

end

/-- Reading an entry of a part gives the record of a complete entry, or says what is wrong. -/
def ReadsEntry {α : Type} (part : Part) (reads : Json.Members → α → Prop) (entry : Json.Members)
    (result : Except ReadFailure α) : Prop :=
  Ends (fun record => IsComplete part entry ∧ reads entry record)
    (fun failure => ∃ m, failure = .malformed m ∧ EntryFault part entry m) result

theorem readSchema_ends (entry : Json.Members) :
    ReadsEntry .schemas ReadsSchema entry (readSchema entry) := by
  refine (require_part_ends .schemas entry).bind fun _ hkeys => ?_
  refine ⟨⟨hkeys, nofun⟩, ?_⟩
  constructor
  · exact given_member _ _ _
  · exact hkeys.lookup (by decide) _

theorem readRelation_ends {part : Part} (hpart : part = .tables ∨ part = .views)
    (entry : Json.Members) : ReadsEntry part ReadsRelation entry (readRelation part entry) := by
  refine (require_part_ends part entry).bind fun _ hkeys => ?_
  have hrequired : part.requiredKeys = ["id", "name"] := by rcases hpart with rfl | rfl <;> rfl
  refine ⟨⟨hkeys, fun htypes => ?_⟩, ?_⟩
  · subst htypes
    simp at hpart
  · rw [hrequired] at hkeys
    constructor
    · exact hkeys.lookup (by decide) _
    · exact hkeys.lookup (by decide) _
    · exact given_member _ _ _
    · exact given_member _ _ _

theorem readColumn_ends (entry : Json.Members) :
    ReadsEntry .columns ReadsColumn entry (readColumn entry) := by
  refine (require_part_ends .columns entry).bind fun _ hkeys => ?_
  refine ⟨⟨hkeys, nofun⟩, ?_⟩
  constructor
  case tableId | name | format => exact hkeys.lookup (by decide) _
  case dataType => exact givenTruthy_orElse _ _ _
  case isNullable | isGenerated | isIdentity => exact givenFlag_isTruthy _ _ _
  all_goals exact given_member _ _ _

theorem readAttribute_ends (entry : Json.Members) :
    Ends (fun attr => HasKeys attributeKeys entry ∧ ReadsAttribute (.object entry) attr)
      (fun failure => failure = .malformed (lacking "attribute" attributeKeys entry) ∧
        ¬ HasKeys attributeKeys entry) (readAttribute (.object entry)) := by
  refine (require_ends "attribute" attributeKeys entry).bind fun _ hkeys => ?_
  exact ⟨hkeys, hkeys.lookup (by decide) _, hkeys.lookup (by decide) _⟩

/-- The items of a list, or of a member that does not count as given, are found. -/
theorem exists_optionalItems {entry : Json.Members} {key : String}
    (hregular : ∀ value, entry.lookup key = some value → value.isTruthy →
      ∃ items, value = .array items) :
    ∃ items, optionalItems (member entry key .null) = .ok items ∧ Lists entry key items := by
  unfold optionalItems member
  cases hlookup : entry.lookup key with
  | none => exact ⟨[], rfl, .none (by simp [hlookup])⟩
  | some value =>
    rw [Option.getD_some]
    cases htruthy : value.isTruthy with
    | true =>
      obtain ⟨items, rfl⟩ := hregular value hlookup htruthy
      exact ⟨items, rfl, .given hlookup⟩
    | false => exact ⟨[], rfl, .none (by simp [hlookup, htruthy])⟩

/-- What an entry lists is what its member lists, if that is a list. -/
theorem Lists.of_array {entry : Json.Members} {key : String} {items given : List Json}
    (h : Lists entry key items) (hgiven : entry.lookup key = some (.array given)) :
    items = given := by
  cases h with
  | given hitems =>
    cases hitems.symm.trans hgiven
    rfl
  | none hfalsy =>
    have hempty := hfalsy _ hgiven
    cases given with
    | nil => rfl
    | cons item rest => simp [Json.isTruthy] at hempty

theorem Lists.lookup_of_ne_nil {entry : Json.Members} {key : String} {items : List Json}
    (h : Lists entry key items) (hitems : items ≠ []) :
    entry.lookup key = some (.array items) := by
  cases h with
  | given hgiven => exact hgiven
  | none => exact absurd rfl hitems

theorem IsRegularType.exists_attributes {entry : Json.Members} (h : IsRegularType entry)
    {items : List Json} (hitems : Lists entry "attributes" items) :
    ∃ attributes : List Json.Members, items = attributes.map .object := by
  cases hitems with
  | none => exact ⟨[], rfl⟩
  | given hitems =>
    cases items with
    | nil => exact ⟨[], rfl⟩
    | cons item rest =>
      obtain ⟨attributes, heq⟩ := h.attributes _ hitems (by simp [Json.isTruthy])
      exact ⟨attributes, Json.array.inj heq⟩

/-- The attributes of a type are read one after the other. -/
theorem readAttributes_ends (attributes : List Json.Members) :
    Ends (fun attrs => (∀ attr ∈ attributes, HasKeys attributeKeys attr) ∧
        List.Forall₂ ReadsAttribute (attributes.map .object) attrs)
      (fun failure => ∃ done attr rest, attributes = done ++ attr :: rest ∧
        (∀ other ∈ done, HasKeys attributeKeys other) ∧ ¬ HasKeys attributeKeys attr ∧
        failure = .malformed (lacking "attribute" attributeKeys attr))
      ((attributes.map Json.object).mapM readAttribute) := by
  rw [List.mapM_map]
  refine (Ends.mapM_first fun attr _ => readAttribute_ends attr).imp ?_ ?_
  · intro attrs hattrs
    obtain ⟨hcomplete, hreads⟩ := (List.forall₂_and_left _ _).mp hattrs
    exact ⟨hcomplete, List.forall₂_map_left_iff.mpr hreads⟩
  · rintro _ ⟨done, attr, rest, rfl, hdone, rfl, hattr⟩
    refine ⟨done, attr, rest, rfl, fun other hother => ?_, hattr, rfl⟩
    obtain ⟨_, hkeys, _⟩ := hdone other hother
    exact hkeys

theorem readType_ends {entry : Json.Members} (hregular : IsRegularType entry) :
    ReadsEntry .types ReadsType entry (readType entry) := by
  refine (require_part_ends .types entry).bind fun _ hkeys => ?_
  have hattributes : ∀ value, entry.lookup "attributes" = some value → value.isTruthy →
      ∃ items, value = .array items := by
    intro value hvalue htruthy
    obtain ⟨attributes, rfl⟩ := hregular.attributes value hvalue htruthy
    exact ⟨_, rfl⟩
  obtain ⟨items, hitems, hlisted⟩ := exists_optionalItems hattributes
  obtain ⟨enums, henums, henumsListed⟩ := exists_optionalItems hregular.enums
  obtain ⟨attributes, rfl⟩ := hregular.exists_attributes hlisted
  rw [hitems, henums, ok_bind]
  refine ((readAttributes_ends attributes).imp (fun _ h => h) ?_).bind
    fun attrs ⟨hcomplete, hattrs⟩ => ?_
  · rintro _ ⟨done, attr, rest, rfl, hdone, hattr, rfl⟩
    have hgiven := hlisted.lookup_of_ne_nil (by simp)
    rw [List.map_append, List.map_cons] at hgiven
    refine ⟨_, rfl, .attributes hkeys hgiven (fun other hother => ?_) hattr⟩
    obtain ⟨_, hmem, heq⟩ := List.mem_map.mp hother
    cases heq
    exact hdone other hmem
  · refine ⟨⟨hkeys, fun _ given hgiven attr hattr => ?_⟩, ?_⟩
    · rw [← hlisted.of_array hgiven] at hattr
      obtain ⟨other, hother, heq⟩ := List.mem_map.mp hattr
      cases heq
      exact hcomplete attr hother
    · constructor
      case id | name => exact hkeys.lookup (by decide) _
      case schema | comment => exact given_member _ _ _
      case format => exact givenTruthy_orElse _ _ _
      case enums => exact henumsListed
      case attributes => exact ⟨_, hlisted, hattrs⟩

section

variable {members : Json.Members}

theorem Holds.lookup_of_ne_nil {part : Part} {entries : List Json.Members}
    (h : Holds members part entries) (hentries : entries ≠ []) :
    members.lookup part.name = some (.array (entries.map .object)) := by
  cases h with
  | given hgiven => exact hgiven
  | absent => exact absurd rfl hentries

/-- The entries of a part are found if it is a list of objects. -/
theorem entries_ends (members : Json.Members) (part : Part) :
    Ends (Holds members part)
      (fun failure => ∃ m, failure = .malformed m ∧ PartFault members part m)
      (entries members part) := by
  unfold entries
  split
  · next hnone => exact .absent hnone
  · next items hitems =>
    refine Ends.imp (@Ends.mapM_first _ _ _ _ (fun item entry => item = Json.object entry)
      (fun item failure => failure = .malformed (.entryNotObject part) ∧
        ∀ entry, item ≠ .object entry) _ fun item _ => ?_) ?_ ?_
    · cases item <;> simp
    · intro entries hentries
      have heq : items = entries.map .object := by
        rw [← List.forall₂_eq_eq_eq, List.forall₂_map_right_iff]
        exact hentries
      exact .given (heq ▸ hitems)
    · rintro _ ⟨done, item, rest, rfl, _, rfl, hitem⟩
      exact ⟨_, rfl, .entryNotObject hitems (by simp) hitem⟩
  · next value hlist hvalue =>
    exact ⟨_, rfl, .notList hvalue hlist⟩

/-- The records of a part. -/
def readPart {α : Type} (members : Json.Members) (part : Part)
    (read : Json.Members → Except ReadFailure α) : Except ReadFailure (List α) :=
  entries members part >>= List.mapM read

/-- Reading a part gives the records of a sound part, or says what is wrong. -/
theorem readPart_ends {α : Type} {part : Part} {read : Json.Members → Except ReadFailure α}
    {reads : Json.Members → α → Prop}
    (hread : ∀ entries, Holds members part entries → ∀ entry ∈ entries,
      ReadsEntry part reads entry (read entry)) :
    Ends (fun records => IsSound members part ∧ ReadsPart members part reads records)
      (fun failure => ∃ m, failure = .malformed m ∧ PartFault members part m)
      (readPart members part read) := by
  refine (entries_ends members part).bind fun es hes => ?_
  refine (Ends.mapM_first (hread es hes)).imp ?_ ?_
  · intro records hrecords
    obtain ⟨hcomplete, hreads⟩ := (List.forall₂_and_left _ _).mp hrecords
    exact ⟨⟨es, hes, hcomplete⟩, es, hes, hreads⟩
  · rintro _ ⟨done, entry, rest, rfl, hdone, m, rfl, hfault⟩
    refine ⟨m, rfl, .entry (hes.lookup_of_ne_nil (by simp)) (fun other hother => ?_) hfault⟩
    obtain ⟨_, hcomplete, _⟩ := hdone other hother
    exact hcomplete

/-- What is wrong with a part is what is wrong with the value if all parts before it are
    sound. -/
theorem readPart_first {α : Type} (before : List Part) {after : List Part} {part : Part}
    (hparts : parts = before ++ part :: after) (hbefore : ∀ other ∈ before, IsSound members other)
    {read : Json.Members → Except ReadFailure α}
    {reads : Json.Members → α → Prop}
    (hread : ∀ entries, Holds members part entries → ∀ entry ∈ entries,
      ReadsEntry part reads entry (read entry)) :
    Ends (fun records => IsSound members part ∧ ReadsPart members part reads records)
      (fun failure => ∃ m, failure = .malformed m ∧ FirstFault (.object members) m)
      (readPart members part read) :=
  (readPart_ends hread).imp (fun _ h => h)
    fun _ ⟨m, heq, hfault⟩ => ⟨m, heq, .part hparts hbefore hfault⟩

theorem ofMembers_eq (members : Json.Members) :
    ofMembers members = (do
      let schemas ← readPart members .schemas readSchema
      let tables ← readPart members .tables (readRelation .tables)
      let views ← readPart members .views (readRelation .views)
      let columns ← readPart members .columns readColumn
      let types ← readPart members .types readType
      return { schemas, tables, views, columns, types }) := by
  simp only [ofMembers, readPart, bind_assoc]

theorem ofMembers_ends (hregular : IsRegular (.object members)) :
    Ends (fun snapshot => (∀ part, IsSound members part) ∧ Reads members snapshot)
      (fun failure => ∃ m, failure = .malformed m ∧ FirstFault (.object members) m)
      (ofMembers members) := by
  have htype : ∀ entries, Holds members .types entries → ∀ entry ∈ entries,
      ReadsEntry .types ReadsType entry (readType entry) := by
    intro entries hentries entry hentry
    have hitems := hentries.lookup_of_ne_nil (List.ne_nil_of_mem hentry)
    exact readType_ends (hregular members rfl _ hitems entry (List.mem_map_of_mem hentry))
  rw [ofMembers_eq]
  refine (readPart_first [] rfl (by simp) fun _ _ entry _ => readSchema_ends entry).bind
    fun schemas ⟨hschemas, hreadSchemas⟩ => ?_
  refine (readPart_first [.schemas] rfl (by simp [hschemas])
    fun _ _ entry _ => readRelation_ends (.inl rfl) entry).bind
    fun tables ⟨htables, hreadTables⟩ => ?_
  refine (readPart_first [.schemas, .tables] rfl (by simp [hschemas, htables])
    fun _ _ entry _ => readRelation_ends (.inr rfl) entry).bind
    fun views ⟨hviews, hreadViews⟩ => ?_
  refine (readPart_first [.schemas, .tables, .views] rfl (by simp [hschemas, htables, hviews])
    fun _ _ entry _ => readColumn_ends entry).bind fun columns ⟨hcolumns, hreadColumns⟩ => ?_
  refine (readPart_first [.schemas, .tables, .views, .columns] rfl
    (by simp [hschemas, htables, hviews, hcolumns]) htype).bind
    fun types ⟨htypes, hreadTypes⟩ => ?_
  refine ⟨fun part => ?_, hreadSchemas, hreadTables, hreadViews, hreadColumns, hreadTypes⟩
  cases part <;> assumption

end

theorem EntryFault.not_isComplete {part : Part} {entry : Json.Members} {m : Malformation}
    (h : EntryFault part entry m) : ¬ IsComplete part entry := by
  intro hcomplete
  cases h with
  | keys hkeys => exact hkeys hcomplete.keys
  | attributes _ hitems _ hattr =>
    exact hattr (hcomplete.attributes rfl _ hitems _ (by simp))

theorem PartFault.not_isSound {members : Json.Members} {part : Part} {m : Malformation}
    (h : PartFault members part m) : ¬ IsSound members part := by
  rintro ⟨entries, hentries, hcomplete⟩
  cases hentries with
  | absent hnone =>
    cases h with
    | notList hgiven | entryNotObject hgiven | entry hgiven => cases hnone.symm.trans hgiven
  | given hlist =>
    cases h with
    | notList hgiven hother =>
      cases hlist.symm.trans hgiven
      exact hother _ rfl
    | entryNotObject hgiven hitem hobject =>
      cases hlist.symm.trans hgiven
      obtain ⟨entry, _, rfl⟩ := List.mem_map.mp hitem
      exact hobject entry rfl
    | entry hgiven _ hentry =>
      have heq := Json.array.inj (Option.some.inj (hlist.symm.trans hgiven))
      rw [List.map_inj_right fun _ _ => Json.object.inj] at heq
      subst heq
      exact hentry.not_isComplete (hcomplete _ (by simp))

/-- What is said about a malformation: what is wrong, with all keys that are missing, and where. -/
inductive Describes : Malformation → String → Option Json → Prop where
  | notObject : Describes .notObject "Metadata snapshot must be a JSON object" none
  | notList (part : Part) :
      Describes (.notList part) ("'" ++ part.name ++ "' must be a list") (some (.text part.name))
  | entryNotObject (part : Part) :
      Describes (.entryNotObject part) ("Every entry of '" ++ part.name ++ "' must be an object")
        (some (.text part.name))
  | missingKeys (kind : String) (name : Json) (keys : List String) :
      Describes (.missingKeys kind name keys)
        (kind ++ " '" ++ name.display ++ "' is missing required fields: " ++
          ", ".intercalate keys)
        (some (.text kind))

/-- A problem reports what is wrong with a snapshot that was read from some place. -/
structure Reports (source : Json) (malformation : Malformation) (problem : Problem) : Prop where
  code_eq : problem.code = "METADATA_ERROR"
  described : ∃ record, Describes malformation problem.message record ∧
    problem.context = (if source.isTruthy then [("path", source)] else []) ++
      (record.map (("record", ·))).toList

theorem context_problem (m : Malformation) (source : Json) : (m.problem source).context =
    (if source.isTruthy then [("path", source)] else []) ++
      if m.record.isTruthy then [("record", m.record)] else [] := by
  unfold Malformation.problem Problem.metadata Problem.note
  cases source.isTruthy <;> cases m.record.isTruthy <;> simp [Json.put]

/-- Each malformation is reported, if it has a place to name. -/
theorem reports_problem {m : Malformation} (hkind : ∀ kind name keys,
    m = .missingKeys kind name keys → kind ≠ "") (source : Json) :
    Reports source m (m.problem source) := by
  refine ⟨rfl, ?_⟩
  rw [context_problem]
  cases m with
  | notObject => exact ⟨none, .notObject, rfl⟩
  | notList part =>
    refine ⟨_, .notList part, ?_⟩
    cases part <;> rfl
  | entryNotObject part =>
    refine ⟨_, .entryNotObject part, ?_⟩
    cases part <;> rfl
  | missingKeys kind name keys =>
    have hplace : (Malformation.missingKeys kind name keys).record.isTruthy = true := by
      simpa [Malformation.record, Json.isTruthy] using hkind kind name keys rfl
    have hdescribes : Describes (.missingKeys kind name keys)
        (Malformation.missingKeys kind name keys).message (some (.text kind)) := by
      have hmessage : (Malformation.missingKeys kind name keys).message =
          kind ++ " '" ++ name.display ++ "' is missing required fields: " ++
            Text.joined ", " keys := rfl
      rw [hmessage, Text.joined_eq_intercalate]
      exact .missingKeys kind name keys
    exact ⟨_, hdescribes, by rw [if_pos hplace]; rfl⟩

theorem EntryFault.kind_ne {part : Part} {entry : Json.Members} {m : Malformation}
    (h : EntryFault part entry m) (kind : String) (name : Json) (keys : List String)
    (hm : m = .missingKeys kind name keys) : kind ≠ "" := by
  cases h with
  | keys =>
    cases hm
    cases part <;> decide
  | attributes =>
    cases hm
    decide

theorem FirstFault.reports {value : Json} {m : Malformation} (h : FirstFault value m)
    (source : Json) : Reports source m (m.problem source) := by
  refine reports_problem (fun kind name keys hm => ?_) source
  cases h with
  | notObject => cases hm
  | part _ _ hfault =>
    cases hfault with
    | notList => cases hm
    | entryNotObject => cases hm
    | entry _ _ hentry => exact hentry.kind_ne kind name keys hm

theorem FirstFault.not_wellFormed {value : Json} {m : Malformation} (h : FirstFault value m) :
    ¬ WellFormed value := by
  rintro ⟨members, rfl, hsound⟩
  cases h with
  | notObject hobject => exact hobject members rfl
  | part _ _ hfault => exact hfault.not_isSound (hsound _)

/-- A snapshot is read from exactly the well-formed values, and then it has what the value says.
    Otherwise the first fault of the value is reported. The parts of a snapshot are those of a
    table, which has what their entries are called and which keys these need. -/
theorem ofJson_outcome {value : Json} (hregular : IsRegular value) (source : Json) :
    (parts.map fun part => (part.name, part.kind, part.requiredKeys)) =
      [("schemas", "schema", ["name"]), ("tables", "table", ["id", "name"]),
        ("views", "view", ["id", "name"]),
        ("columns", "column", ["table_id", "name", "format"]),
        ("types", "type", ["id", "name"])] ∧
    attributeKeys = ["name", "type_id"] ∧
    (WellFormed value → ∃ members snapshot, value = .object members ∧
      ofJson source value = .ok snapshot ∧ Reads members snapshot) ∧
    (¬ WellFormed value → ∃ malformation, FirstFault value malformation ∧
      ofJson source value = .error (.problem (malformation.problem source)) ∧
      Reports source malformation (malformation.problem source)) := by
  have hends : Ends
      (fun snapshot =>
        WellFormed value ∧ ∃ members, value = .object members ∧ Reads members snapshot)
      (fun failure => ∃ m, failure = .problem (m.problem source) ∧ FirstFault value m)
      (ofJson source value) := by
    unfold ofJson
    cases value with
    | object members =>
      refine Ends.mapError ((ofMembers_ends hregular).imp ?_ fun _ h => h) ?_
      · exact fun snapshot ⟨hsound, hreads⟩ => ⟨⟨members, rfl, hsound⟩, members, rfl, hreads⟩
      · rintro _ ⟨m, rfl, hfault⟩
        exact ⟨m, rfl, hfault⟩
    | _ => exact ⟨.notObject, rfl, .notObject (by simp)⟩
  refine ⟨rfl, rfl, ?_⟩
  cases hresult : ofJson source value with
  | ok snapshot =>
    obtain ⟨hwell, members, hvalue, hreads⟩ := hends.of_eq_ok hresult
    exact ⟨fun _ => ⟨members, snapshot, hvalue, rfl, hreads⟩, fun hill => absurd hwell hill⟩
  | error failure =>
    obtain ⟨m, rfl, hfault⟩ := hends.of_eq_error hresult
    exact ⟨fun hwell => absurd hwell hfault.not_wellFormed,
      fun _ => ⟨m, hfault, rfl, hfault.reports source⟩⟩

def moodMembers : Json.Members :=
  [("id", .int 7), ("name", .text "mood"), ("attributes", .null), ("enums", .array [.text "ok"])]

/-- A mood, with no attributes. -/
def moods : Json :=
  .object [("types", .array [.object moodMembers])]

theorem isRegular_moods : IsRegular moods := by
  rintro members ⟨⟩ items hitems entry hentry
  cases hitems
  cases List.mem_singleton.mp hentry
  constructor
  · rintro value ⟨⟩ htruthy
    cases htruthy
  · rintro value ⟨⟩ _
    exact ⟨_, rfl⟩

theorem wellFormed_moods : WellFormed moods := by
  refine ⟨_, rfl, fun part => ?_⟩
  cases part with
  | types =>
    refine ⟨[moodMembers], .given rfl, fun entry hentry => ?_⟩
    cases List.mem_singleton.mp hentry
    refine ⟨by decide, ?_⟩
    rintro _ items ⟨⟩
  | schemas | tables | views | columns => exact ⟨[], .absent rfl, by simp⟩

def titleMembers : Json.Members :=
  [("table_id", .int 1), ("name", .text "title"), ("format", .text "text")]

/-- A complete column and one that says its name only. -/
def untypedMembers : Json.Members :=
  [("columns", .array [.object titleMembers, .object [("name", .text "mood")]])]

def untypedColumn : Json :=
  .object untypedMembers

theorem isRegular_untypedColumn : IsRegular untypedColumn := by
  rintro members ⟨⟩ items ⟨⟩

theorem not_wellFormed_untypedColumn : ¬ WellFormed untypedColumn := by
  have htitle : ∀ other ∈ [titleMembers], IsComplete .columns other := by
    intro other hother
    cases List.mem_singleton.mp hother
    exact ⟨by decide, nofun⟩
  have hkeys : ¬ HasKeys Part.columns.requiredKeys [("name", .text "mood")] := by decide
  have hgiven : untypedMembers.lookup Part.columns.name =
      some (.array (([titleMembers] ++ [[("name", Json.text "mood")]]).map .object)) := rfl
  rintro ⟨members, ⟨⟩, hsound⟩
  exact PartFault.not_isSound (.entry hgiven htitle (.keys hkeys)) (hsound .columns)

/-- A mood is read, and a column without a type is not. -/
theorem ofJson_outcome_moods :
    (IsRegular moods ∧ WellFormed moods ∧ ∃ members snapshot, moods = .object members ∧
      ofJson .null moods = .ok snapshot ∧ Reads members snapshot) ∧
    IsRegular untypedColumn ∧ ¬ WellFormed untypedColumn ∧
      ∃ malformation, FirstFault untypedColumn malformation ∧
        ofJson .null untypedColumn = .error (.problem (malformation.problem .null)) ∧
        Reports .null malformation (malformation.problem .null) :=
  ⟨⟨isRegular_moods, wellFormed_moods,
      (ofJson_outcome isRegular_moods .null).2.2.1 wellFormed_moods⟩,
    isRegular_untypedColumn, not_wellFormed_untypedColumn,
    (ofJson_outcome isRegular_untypedColumn .null).2.2.2 not_wellFormed_untypedColumn⟩

end DartModels.Snapshot
