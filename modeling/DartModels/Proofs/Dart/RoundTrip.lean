import DartModels.Proofs.Dart.Evaluation
import DartModels.Proofs.Dart.Outline
import DartModels.Proofs.Resolution.RecordOrder
import DartModels.Proofs.Schema.Validity

namespace DartModels

open Dart (Calls Expression RecordClass RecordCode Scope Value callsWithin)
open Dart.RecordClass (property)
open Schema (Conforms)
open SchemaRecord (Holds)

namespace DartType

mutual

/-- What JSON becomes when it is read at a type: an object for each record. -/
def decoded : DartType → Json → Value
  | .nullable inner, value => decoded inner value
  | .list element, .array items => .list (items.map fun item => decoded element item)
  | .object name fields, .object members =>
    .object (classNameOf name) (decodedFields fields members)
  | _, value => .ofJson value

def decodedFields : List (Json × DartType) → Json.Members → Scope
  | [], _ => []
  | (key, type) :: fields, members =>
    (property key, decoded type ((members.lookup key.spelling).getD .null)) ::
      decodedFields fields members

end

mutual

/-- JSON without the members that no field of their record is for, and without those that are
    null. The members that are left stand in the order of the fields. -/
def restricted : DartType → Json → Json
  | .nullable inner, value => restricted inner value
  | .list element, .array items => .array (items.map fun item => restricted element item)
  | .object _ fields, .object members => .object (restrictedFields fields members)
  | _, value => value

def restrictedFields : List (Json × DartType) → Json.Members → Json.Members
  | [], _ => []
  | (key, type) :: fields, members =>
    match (members.lookup key.spelling).getD .null with
    | .null => restrictedFields fields members
    | value => (key.spelling, restricted type value) :: restrictedFields fields members

end

mutual

/-- How many records of a type stand inside each other at most. -/
def nesting : DartType → Nat
  | .nullable inner => nesting inner
  | .list element => nesting element
  | .object _ fields => nestingFields fields + 1
  | _ => 0

def nestingFields : List (Json × DartType) → Nat
  | [] => 0
  | (_, type) :: fields => max (nesting type) (nestingFields fields)

end

theorem decodedFields_eq (fields : List (Json × DartType)) (members : Json.Members) :
    decodedFields fields members = fields.map fun field =>
      (property field.1, decoded field.2 ((members.lookup field.1.spelling).getD .null)) := by
  induction fields with
  | nil => rfl
  | cons field fields ih => rw [decodedFields, ih, List.map_cons]

theorem lookup_decodedFields {fields : List (Json × DartType)}
    (hproperties : (fields.map fun field => property field.1).Nodup) (members : Json.Members)
    {field : Json × DartType} (hfield : field ∈ fields) :
    (decodedFields fields members).lookup (property field.1) =
      some (field.2.decoded ((members.lookup field.1.spelling).getD .null)) := by
  rw [decodedFields_eq]
  exact Dart.lookup_map_of_nodup hproperties hfield

theorem restrictedFields_cons (field : Json × DartType) (fields : List (Json × DartType))
    (members : Json.Members) :
    restrictedFields (field :: fields) members =
      restrictedFields [field] members ++ restrictedFields fields members := by
  rw [restrictedFields, restrictedFields]
  split <;> rfl

theorem ofMembers_restrictedFields (fields : List (Json × DartType)) (members : Json.Members) :
    Value.ofMembers (restrictedFields fields members) =
      (fields.map fun field => Value.ofMembers (restrictedFields [field] members)).flatten := by
  induction fields with
  | nil => rfl
  | cons field fields ih =>
    rw [restrictedFields_cons, Value.ofMembers_append, ih, List.map_cons, List.flatten_cons]

theorem restrictedFields_of_null {field : Json × DartType} {members : Json.Members}
    (h : (members.lookup field.1.spelling).getD .null = .null) :
    restrictedFields [field] members = [] := by
  rw [restrictedFields, h]
  rfl

theorem restrictedFields_of_present {field : Json × DartType} {members : Json.Members}
    (h : (members.lookup field.1.spelling).getD .null ≠ .null) :
    restrictedFields [field] members =
      [(field.1.spelling, field.2.restricted ((members.lookup field.1.spelling).getD .null))] := by
  rw [restrictedFields]
  split
  · next hnull => exact absurd hnull h
  · rfl

theorem nesting_le_of_mem {fields : List (Json × DartType)} {field : Json × DartType}
    (hfield : field ∈ fields) : field.2.nesting ≤ nestingFields fields := by
  induction fields with
  | nil => cases hfield
  | cons other fields ih =>
    rw [nestingFields]
    rcases List.mem_cons.mp hfield with rfl | hfield
    · exact le_max_left _ _
    · exact (ih hfield).trans (le_max_right _ _)

theorem decoded_eq_null_iff (type : DartType) {value : Json} :
    type.decoded value = .null ↔ value = .null := by
  match type with
  | .nullable inner => exact decoded_eq_null_iff inner
  | .list _ => cases value <;> simp [decoded, Value.ofJson]
  | .object _ _ => cases value <;> simp [decoded, Value.ofJson]
  | .scalar _ | .temporal | .interval | .map _ _ | .enum _ _ _ | .composite _ _ | .reference _ =>
    exact Value.ofJson_eq_null_iff

theorem restricted_null (type : DartType) : type.restricted .null = .null := by
  match type with
  | .nullable inner => exact restricted_null inner
  | .list _ | .object _ _ | .scalar _ | .temporal | .interval | .map _ _ | .enum _ _ _
  | .composite _ _ | .reference _ => rfl

/-- Whether the JSON form of a value is made by a member of the value. -/
def callsMember : DartType → Bool
  | .scalar _ | .map _ _ => false
  | .nullable inner => callsMember inner
  | _ => true

theorem encoding_eq_self {type : DartType} (h : type.callsMember = false) (value : Expression) :
    type.encoding value = value := by
  match type with
  | .scalar _ | .map _ _ => rfl
  | .nullable inner => exact encoding_eq_self (show inner.callsMember = false from h) value
  | .temporal | .interval | .list _ | .enum _ _ _ | .composite _ _ | .object _ _ | .reference _ =>
    cases h

end DartType

/-- A list somewhere in a value has null among its elements, where the JSON form of an element is
    made by a member of it. -/
inductive MeetsNull : DartType → Json → Prop where
  | element {inner : DartType} {items : List Json} (hcalls : inner.callsMember)
      (hnull : Json.null ∈ items) : MeetsNull (.list (.nullable inner)) (.array items)
  | nullable {inner : DartType} {value : Json} (h : MeetsNull inner value) :
      MeetsNull (.nullable inner) value
  | item {element : DartType} {items : List Json} {item : Json} (hitem : item ∈ items)
      (h : MeetsNull element item) : MeetsNull (.list element) (.array items)
  | field {name : Json} {fields : List (Json × DartType)} {members : Json.Members}
      {field : Json × DartType} {value : Json} (hfield : field ∈ fields)
      (hvalue : members.lookup field.1.spelling = some value) (h : MeetsNull field.2 value) :
      MeetsNull (.object name fields) (.object members)

theorem MeetsNull.ne_null {type : DartType} {value : Json} (h : MeetsNull type value) :
    value ≠ .null := by
  induction h with
  | element => simp
  | nullable _ ih => exact ih
  | item => simp
  | field => simp

/-- Only a type that allows null has it, if the JSON form is made by a member. -/
theorem Schema.Conforms.exists_inner_of_null {type : DartType} (h : Conforms type .null)
    (hcalls : type.callsMember) : ∃ inner, type = .nullable inner ∧ inner.callsMember := by
  cases h with
  | dynamic => cases hcalls
  | null inner => exact ⟨inner, rfl, hcalls⟩
  | @present inner => exact ⟨inner, rfl, hcalls⟩

/-- The class that is declared for a record. -/
def SchemaRecord.code (record : SchemaRecord) : RecordCode :=
  (Dart.objectClass record.name record.fields).code

/-- Some classes have the code of each record inside a type, and the properties of a record have
    names of their own. -/
structure HasCode (classes : List RecordCode) (type : DartType) : Prop where
  code : ∀ record, Holds type record →
    classes.find? (·.className == record.className) = some record.code
  properties : ∀ record, Holds type record →
    (record.fields.map fun field => property field.1).Nodup

namespace HasCode

variable {classes : List RecordCode}

theorem nullable {inner : DartType} (h : HasCode classes (.nullable inner)) :
    HasCode classes inner :=
  ⟨fun record hrecord => h.code record (.nullable hrecord),
    fun record hrecord => h.properties record (.nullable hrecord)⟩

theorem list {element : DartType} (h : HasCode classes (.list element)) :
    HasCode classes element :=
  ⟨fun record hrecord => h.code record (.list hrecord),
    fun record hrecord => h.properties record (.list hrecord)⟩

theorem field {name : Json} {fields : List (Json × DartType)}
    (h : HasCode classes (.object name fields)) {field : Json × DartType}
    (hfield : field ∈ fields) : HasCode classes field.2 :=
  ⟨fun record hrecord => h.code record (.field hfield hrecord),
    fun record hrecord => h.properties record (.field hfield hrecord)⟩

end HasCode

section

variable {library : String → Value → Option Value} {classes : List RecordCode}

/-- A member of null cannot be called. -/
theorem eval_encoding_null {type : DartType} (hcalls : type.callsMember) {depth : Nat}
    {scope : Scope} {source : Expression}
    (hsource : source.eval (callsWithin library classes depth) scope = some .null) :
    (type.encoding source).eval (callsWithin library classes depth) scope = none := by
  match type with
  | .nullable inner => exact eval_encoding_null (show inner.callsMember from hcalls) hsource
  | .scalar _ | .map _ _ => cases hcalls
  | .temporal | .interval | .list _ =>
    simp only [DartType.encoding, Expression.eval, hsource]
    rfl
  | .enum _ _ _ | .composite _ _ | .object _ _ | .reference _ =>
    simp only [DartType.encoding, Expression.eval, hsource]
    cases depth <;> rfl

theorem callsWithin_fromJson {record : SchemaRecord}
    (hcode : classes.find? (·.className == record.className) = some record.code) (depth : Nat)
    (members : List (String × Value)) :
    (callsWithin library classes (depth + 1)).fromJson record.className (.map members) =
      record.code.build (callsWithin library classes depth) (.map members) := by
  rw [callsWithin]
  simp only [hcode]
  rfl

theorem callsWithin_toJson {record : SchemaRecord}
    (hcode : classes.find? (·.className == record.className) = some record.code) (depth : Nat)
    (properties : Scope) :
    (callsWithin library classes (depth + 1)).toJson (.object record.className properties) =
      record.code.write (callsWithin library classes depth) properties := by
  rw [callsWithin]
  simp only [hcode]
  rfl

/-- What conforms to a type can be read at it. -/
theorem eval_decoding {type : DartType} {value : Json} (hvalue : Conforms type value) {depth : Nat}
    (hdepth : type.nesting ≤ depth) (hcode : HasCode classes type) (scope : Scope)
    (source : Expression)
    (hsource : source.eval (callsWithin library classes depth) scope = some (.ofJson value)) :
    (type.decoding source).eval (callsWithin library classes depth) scope =
      some (type.decoded value) := by
  induction hvalue generalizing depth scope source with
  | string | bool | int | whole | double | dynamic | map =>
    exact Expression.eval_cast hsource rfl
  | @list element items _ ih =>
    rw [Value.ofJson, Value.ofItems_eq] at hsource
    have hlist : (Expression.parenthesized (.cast source "List<dynamic>")).eval
        (callsWithin library classes depth) scope = some (.list (items.map Value.ofJson)) :=
      Expression.eval_cast hsource rfl
    have hitems : (items.map Value.ofJson).mapM (fun item =>
        (element.decoding (.name "v")).eval (callsWithin library classes depth)
          (("v", item) :: scope)) = some (items.map fun item => element.decoded item) := by
      rw [List.mapM_map]
      refine Dart.mapM_eq_some fun item hitem => ?_
      exact ih item hitem hdepth hcode.list _ _ rfl
    rw [DartType.decoding, Expression.eval_mapped hlist, hitems]
    rfl
  | null inner =>
    rw [DartType.decoding, Expression.eval_unlessNull_null hsource]
    exact congrArg some ((DartType.decoded_eq_null_iff inner).mpr rfl).symm
  | @present inner value _ ih =>
    by_cases hnull : value = .null
    · subst hnull
      rw [DartType.decoding, Expression.eval_unlessNull_null hsource]
      exact congrArg some ((DartType.decoded_eq_null_iff inner).mpr rfl).symm
    · rw [DartType.decoding,
        Expression.eval_unlessNull hsource (Value.ofJson_eq_null_iff.not.mpr hnull)]
      exact ih hdepth hcode.nullable _ _ hsource
  | @object name fields members _ ih =>
    obtain _ | depth := depth
    · cases hdepth
    have hread : ∀ member ∈ fields,
        (RecordClass.reading member).2.eval (callsWithin library classes depth)
          [("jsonObject", .map (Value.ofMembers members))] =
        some (member.2.decoded ((members.lookup member.1.spelling).getD .null)) := by
      intro member hmember
      have hobject : (Expression.name "jsonObject").eval (callsWithin library classes depth)
          [("jsonObject", .map (Value.ofMembers members))] =
          some (.map (Value.ofMembers members)) := rfl
      apply ih member hmember _ (hcode.field hmember)
      · rw [Expression.eval_entry hobject, Value.lookup_ofMembers]
        cases members.lookup member.1.spelling <;> rfl
      · exact (DartType.nesting_le_of_mem hmember).trans (Nat.le_of_succ_le_succ hdepth)
    have hrecord := Holds.object name fields
    have hproperties : ((Dart.objectClass name fields).members.map fun member =>
        property member.1).Nodup := hcode.properties _ hrecord
    rw [DartType.decoding, Expression.eval, hsource]
    refine (callsWithin_fromJson (hcode.code _ hrecord) depth _).trans ?_
    refine (RecordClass.build_eq hproperties hread).trans ?_
    rw [DartType.decoded, DartType.decodedFields_eq]
    rfl

/-- The entry of a field has the form of its value that is left, or is not there. -/
theorem eval_writing {calls : Calls} {scope : Scope} {field : Json × DartType}
    {members : Json.Members}
    (hproperty : scope.lookup (property field.1) =
      some (field.2.decoded ((members.lookup field.1.spelling).getD .null)))
    (hpresent : (members.lookup field.1.spelling).getD .null ≠ .null →
      (field.2.encoding (.name (property field.1))).eval calls scope =
        some (.ofJson (field.2.restricted ((members.lookup field.1.spelling).getD .null)))) :
    (RecordClass.writing field).eval calls scope =
      some (Value.ofMembers (DartType.restrictedFields [field] members)) := by
  rw [← RecordClass.writing_condition] at hproperty
  by_cases hnull : (members.lookup field.1.spelling).getD .null = .null
  · rw [(DartType.decoded_eq_null_iff _).mpr hnull] at hproperty
    rw [Dart.MapEntry.eval_of_null hproperty, DartType.restrictedFields_of_null hnull]
    rfl
  · rw [Dart.MapEntry.eval_of_present hproperty ((DartType.decoded_eq_null_iff _).not.mpr hnull),
      RecordClass.writing_value, RecordClass.writing_key, hpresent hnull,
      DartType.restrictedFields_of_present hnull]
    rfl

/-- The JSON form of an object that was read for a record is made of the entries of its fields. -/
theorem eval_encoding_object {name : Json} {fields : List (Json × DartType)}
    {members : Json.Members} (hcode : HasCode classes (.object name fields)) {depth : Nat}
    {scope : Scope} {source : Expression}
    (hsource : source.eval (callsWithin library classes (depth + 1)) scope =
      some ((DartType.object name fields).decoded (.object members))) :
    ((DartType.object name fields).encoding source).eval (callsWithin library classes (depth + 1))
        scope =
      ((fields.map RecordClass.writing).mapM (Dart.MapEntry.eval (callsWithin library classes depth)
        (DartType.decodedFields fields members))).map fun entries => .map entries.flatten := by
  have hrecord := Holds.object name fields
  have hproperties : ((Dart.objectClass name fields).members.map fun member =>
      property member.1).Nodup := hcode.properties _ hrecord
  have hwritten := RecordClass.write_eq hproperties (callsWithin library classes depth) fun field =>
    field.2.decoded ((members.lookup field.1.spelling).getD .null)
  have hscope : (Dart.objectClass name fields).propertiesOf (fun field =>
      field.2.decoded ((members.lookup field.1.spelling).getD .null)) =
      DartType.decodedFields fields members :=
    (DartType.decodedFields_eq fields members).symm
  rw [hscope] at hwritten
  rw [DartType.encoding, Expression.eval, hsource]
  exact (callsWithin_toJson (hcode.code _ hrecord) depth _).trans hwritten

/-- What conforms to a type and was read at it can be written, apart from a null whose members
    would be called. -/
theorem eval_encoding {type : DartType} {value : Json} (hvalue : Conforms type value)
    (hmeets : ¬MeetsNull type value) (hnull : value = .null → type.callsMember = false)
    {depth : Nat} (hdepth : type.nesting ≤ depth) (hcode : HasCode classes type) (scope : Scope)
    (source : Expression)
    (hsource : source.eval (callsWithin library classes depth) scope = some (type.decoded value)) :
    (type.encoding source).eval (callsWithin library classes depth) scope =
      some (.ofJson (type.restricted value)) := by
  induction hvalue generalizing depth scope source with
  | string | bool | int | whole | double | dynamic | map => exact hsource
  | @list element items hitems ih =>
    rw [DartType.decoded] at hsource
    have hwritten : (items.map fun item => element.decoded item).mapM (fun item =>
        (element.encoding (.name "v")).eval (callsWithin library classes depth)
          (("v", item) :: scope)) =
        some (items.map fun item => .ofJson (element.restricted item)) := by
      rw [List.mapM_map]
      refine Dart.mapM_eq_some fun item hitem => ?_
      refine ih item hitem (fun h => hmeets (.item hitem h)) (fun hitemNull => ?_) hdepth
        hcode.list _ _ rfl
      rw [Bool.eq_false_iff]
      intro hcalls
      subst hitemNull
      obtain ⟨inner, rfl, hinner⟩ := (hitems _ hitem).exists_inner_of_null hcalls
      exact hmeets (.element hinner hitem)
    rw [DartType.encoding, Expression.eval_mapped hsource, hwritten, DartType.restricted,
      Value.ofJson, Value.ofItems_eq, List.map_map]
    rfl
  | null inner =>
    rw [DartType.encoding_eq_self (hnull rfl), hsource, (DartType.decoded_eq_null_iff _).mpr rfl,
      DartType.restricted_null]
    rfl
  | present _ ih =>
    exact ih (fun h => hmeets h.nullable) hnull hdepth hcode.nullable _ _ hsource
  | @object name fields members _ ih =>
    obtain _ | depth := depth
    · cases hdepth
    have hlookup := fun field (hfield : field ∈ fields) =>
      DartType.lookup_decodedFields (hcode.properties _ (.object name fields)) members hfield
    have hentries : (fields.map RecordClass.writing).mapM
        (Dart.MapEntry.eval (callsWithin library classes depth)
          (DartType.decodedFields fields members)) =
        some (fields.map fun field =>
          Value.ofMembers (DartType.restrictedFields [field] members)) := by
      rw [List.mapM_map]
      refine Dart.mapM_eq_some fun field hfield => ?_
      apply eval_writing (hlookup field hfield)
      intro hpresent
      refine ih field hfield (fun h => ?_) (fun h => absurd h hpresent)
        ((DartType.nesting_le_of_mem hfield).trans (Nat.le_of_succ_le_succ hdepth))
        (hcode.field hfield) _ _ (hlookup field hfield)
      cases hmember : members.lookup field.1.spelling with
      | none => exact hpresent (by rw [hmember]; rfl)
      | some value =>
        rw [hmember] at h
        exact hmeets (.field hfield hmember h)
    rw [eval_encoding_object hcode hsource, hentries, DartType.restricted, Value.ofJson,
      DartType.ofMembers_restrictedFields]
    rfl

/-- Where a null is met whose members are called, what was read cannot be written. -/
theorem eval_encoding_of_meetsNull {type : DartType} {value : Json} (hmeets : MeetsNull type value)
    (hcode : HasCode classes type) {depth : Nat} (scope : Scope) (source : Expression)
    (hsource : source.eval (callsWithin library classes depth) scope = some (type.decoded value)) :
    (type.encoding source).eval (callsWithin library classes depth) scope = none := by
  induction hmeets generalizing depth scope source with
  | @element inner items hcalls hnull =>
    rw [DartType.decoded] at hsource
    have helement : (inner.encoding (.name "v")).eval (callsWithin library classes depth)
        (("v", inner.decoded .null) :: scope) = none :=
      eval_encoding_null hcalls (congrArg some ((DartType.decoded_eq_null_iff inner).mpr rfl))
    rw [DartType.encoding, Expression.eval_mapped hsource, List.mapM_map,
      Dart.mapM_eq_none hnull helement]
    rfl
  | nullable _ ih => exact ih hcode.nullable _ _ hsource
  | @item element items item hitem _ ih =>
    rw [DartType.decoded] at hsource
    have helement : (element.encoding (.name "v")).eval (callsWithin library classes depth)
        (("v", element.decoded item) :: scope) = none :=
      ih hcode.list _ _ rfl
    rw [DartType.encoding, Expression.eval_mapped hsource, List.mapM_map,
      Dart.mapM_eq_none hitem helement]
    rfl
  | @field name fields members field value hfield hvalue hmeets ih =>
    obtain _ | depth := depth
    · rw [DartType.encoding, Expression.eval, hsource]
      rfl
    have hlookup := DartType.lookup_decodedFields
      (hcode.properties _ (.object name fields)) members hfield
    rw [hvalue] at hlookup
    have hnone : (field.2.encoding (.name (property field.1))).eval
        (callsWithin library classes depth) (DartType.decodedFields fields members) = none :=
      ih (hcode.field hfield) _ _ hlookup
    have hentry : (RecordClass.writing field).eval (callsWithin library classes depth)
        (DartType.decodedFields fields members) = none := by
      rw [← RecordClass.writing_condition] at hlookup
      rw [Dart.MapEntry.eval_of_present hlookup
        ((DartType.decoded_eq_null_iff _).not.mpr hmeets.ne_null), RecordClass.writing_value,
        hnone]
      rfl
    rw [eval_encoding_object hcode hsource, List.mapM_map, Dart.mapM_eq_none hfield hentry]
    rfl

end

/-- The classes that are declared for the records inside a type. -/
def declaredCode (type : DartType) : List RecordCode :=
  (SchemaRecord.firstOfClass (SchemaRecord.within type)).map SchemaRecord.code

/-- Where records of one class are one record, the class of each one is its own. -/
theorem hasCode_declaredCode {type : DartType}
    (hclasses : ∀ record other, Holds type record → Holds type other →
      record.className = other.className → record = other)
    (hproperties : ∀ record, Holds type record →
      (record.fields.map fun field => property field.1).Nodup) :
    HasCode (declaredCode type) type := by
  refine ⟨fun record hrecord => ?_, hproperties⟩
  have hpicks := SchemaRecord.picks_firstOfClass (SchemaRecord.within type)
  have hholds : ∀ other ∈ SchemaRecord.firstOfClass (SchemaRecord.within type), Holds type other :=
    fun other hother => (SchemaRecord.visits_within type).mem_iff.mp (hpicks.subset hother)
  obtain ⟨kept, hkept, hclass⟩ := SchemaRecord.exists_picked_of_class hpicks record
    ((SchemaRecord.visits_within type).mem_iff.mpr hrecord)
  have hfind : (SchemaRecord.firstOfClass (SchemaRecord.within type)).find?
      (fun other => other.className == record.className) = some record := by
    cases hfind : (SchemaRecord.firstOfClass (SchemaRecord.within type)).find?
        (fun other => other.className == record.className) with
    | none => exact absurd hclass (by simpa using List.find?_eq_none.mp hfind kept hkept)
    | some found =>
      have hfound := List.mem_of_find?_eq_some hfind
      have hsame : found.className = record.className := by simpa using List.find?_some hfind
      rw [hclasses found record (hholds found hfound) hrecord hsame]
  rw [declaredCode, List.find?_map]
  exact congrArg (Option.map SchemaRecord.code) hfind

/-- A record is read and written back. Let the classes of the records inside it be told apart,
    and the properties of each of them. The code of these classes is what is written for them, as
    sections of their declarations, and it reads all JSON that conforms to the record. The object
    that it gives is written as the JSON that it was read from, restricted to what the record has
    fields for, unless a list has null among its elements where these are lists or records: that
    cannot be written at all. -/
theorem SchemaRecord.fromJson_toJson (library : String → Value → Option Value)
    (record : SchemaRecord)
    (hclasses : ∀ inner other, Holds record.toType inner → Holds record.toType other →
      inner.className = other.className → inner = other)
    (hproperties : ∀ inner, Holds record.toType inner →
      (inner.fields.map fun field => Dart.propertyName field.1.spelling).Nodup)
    {value : Json} (hvalue : Conforms record.toType value) :
    (∀ inner, Holds record.toType inner →
      (Dart.objectClass inner.name inner.fields).constructor = inner.code.constructor ∧
      (Dart.objectClass inner.name inner.fields).generateMap = inner.code.generateMap ∧
      (Dart.objectClass inner.name inner.fields).toJson = inner.code.toJson ∧
      (Dart.objectClass inner.name inner.fields).fromJson = inner.code.fromJson ∧
      (∀ text, Dart.declaration inner.toType = .ok text → Dart.EndsWithSections text
        [inner.code.constructor, inner.code.generateMap, inner.code.toJson, inner.code.fromJson,
          (Dart.objectClass inner.name inner.fields).copyWith]) ∧
      (record.toType.Textual → ∃ text, Dart.declaration inner.toType = .ok text)) ∧
    ∃ object, (∀ depth, record.toType.nesting ≤ depth →
      (callsWithin library (declaredCode record.toType) depth).fromJson record.className
        (.ofJson value) = some object ∧
      (¬MeetsNull record.toType value →
        (callsWithin library (declaredCode record.toType) depth).toJson object =
          some (.ofJson (record.toType.restricted value)))) ∧
      (MeetsNull record.toType value → ∀ depth,
        (callsWithin library (declaredCode record.toType) depth).toJson object = none) := by
  have hcode := hasCode_declaredCode hclasses hproperties
  refine ⟨fun inner hinner => ?_, record.toType.decoded value,
    fun depth hdepth => ⟨?_, fun hmeets => ?_⟩, fun hmeets depth => ?_⟩
  · obtain ⟨hconstructor, hgenerateMap, htoJson, hfromJson⟩ :=
      RecordClass.code_text (Dart.objectClass inner.name inner.fields)
    refine ⟨hconstructor, hgenerateMap, htoJson, hfromJson, fun text htext => ?_, fun htextual =>
      Dart.exists_declaration (SchemaRecord.holds_textual htextual hinner) rfl⟩
    rw [SchemaRecord.toType, Dart.declaration] at htext
    split at htext
    · cases htext
      exact RecordClass.endsWithSections_source _ [] []
    · cases htext
  · exact eval_decoding hvalue hdepth hcode [("json", .ofJson value)] (.name "json") rfl
  · refine eval_encoding hvalue hmeets (fun hnull => ?_) hdepth hcode
      [("object", record.toType.decoded value)] (.name "object") rfl
    subst hnull
    cases hvalue
  · exact eval_encoding_of_meetsNull hmeets hcode [("object", record.toType.decoded value)]
      (.name "object") rfl

/-- A note with tags, each of which may be null. -/
def tagsSchema : Json :=
  .object [("type", .text "object"), ("required", .array [.text "tags"]),
    ("properties", .object [("tags", .object [("type", .text "array"),
      ("items", .object [("type", .array [.text "object", .text "null"]),
        ("properties", .object [])])])])]

def tag : SchemaRecord := ⟨.text "tags_element", []⟩

def taggedNote : SchemaRecord :=
  ⟨.text "note", [(.text "tags", .list (.nullable tag.toType))]⟩

theorem holds_taggedNote_iff {record : SchemaRecord} :
    Holds taggedNote.toType record ↔ record = taggedNote ∨ record = tag := by
  rw [← (SchemaRecord.visits_within _).mem_iff]
  simp [SchemaRecord.within, SchemaRecord.withinFields, SchemaRecord.toType, taggedNote, tag,
    or_comm]

/-- A note whose only tag is null is read and then cannot be written. -/
theorem taggedNote_not_written :
    (Schema.typeOf tagsSchema (.text "note")).outcome = .ok taggedNote.toType ∧
      Conforms taggedNote.toType (.object [("tags", .array [.null])]) ∧
      MeetsNull taggedNote.toType (.object [("tags", .array [.null])]) ∧
      ∃ object,
        (∀ depth, 2 ≤ depth →
          (callsWithin (fun _ _ => none) (declaredCode taggedNote.toType) depth).fromJson "Note"
            (.map [("tags", .list [.null])]) = some object) ∧
        ∀ depth, (callsWithin (fun _ _ => none) (declaredCode taggedNote.toType) depth).toJson
          object = none := by
  have hschema : (Schema.typeOf tagsSchema (.text "note")).outcome = .ok taggedNote.toType := by
    with_unfolding_all rfl
  have hvalue : Conforms taggedNote.toType (.object [("tags", .array [.null])]) := by
    refine .object _ fun field hfield => ?_
    cases List.mem_singleton.mp hfield
    refine .list fun item hitem => ?_
    cases List.mem_singleton.mp hitem
    exact .null _
  have hmeets : MeetsNull taggedNote.toType (.object [("tags", .array [.null])]) :=
    .field List.mem_cons_self rfl (.element rfl List.mem_cons_self)
  have hclass : taggedNote.className = "Note" := by decide
  have htagClass : tag.className = "TagsElement" := by decide
  obtain ⟨_, object, hread, hwritten⟩ := SchemaRecord.fromJson_toJson (fun _ _ => none) taggedNote
    (fun inner other hinner hother hsame => by
      rw [holds_taggedNote_iff] at hinner hother
      obtain rfl | rfl := hinner <;> obtain rfl | rfl := hother <;> simp_all)
    (fun inner hinner => by
      rw [holds_taggedNote_iff] at hinner
      obtain rfl | rfl := hinner <;> simp [taggedNote, tag]) hvalue
  refine ⟨hschema, hvalue, hmeets, object, fun depth hdepth => ?_, hwritten hmeets⟩
  rw [← hclass]
  exact (hread depth hdepth).1

end DartModels
