import DartModels.Proofs.Dart.Identity
import DartModels.Proofs.Resolution.Spelling

namespace DartModels

namespace Json

theorem text_same_iff {text : String} {other : Json} :
    (Json.text text).same other ↔ other = .text text := by
  cases other with
  | text otherText => simpa [same, key?] using eq_comm
  | float value => cases value <;> simp [same, key?, Key.ofBinary64]
  | _ => simp [same, key?]

theorem same_text_right_iff {value : Json} {text : String} :
    value.same (.text text) ↔ value = .text text := by
  cases value with
  | float value => cases value <;> simp [same, key?, Key.ofBinary64]
  | _ => simp [same, key?]

/-- A text is equal to itself only. -/
theorem isText_of_same {value other : Json} (hsame : value.same other) :
    value.isText = other.isText ∧ (value.isText → value = other) := by
  cases value with
  | text text =>
    cases text_same_iff.mp hsame
    exact ⟨rfl, fun _ => rfl⟩
  | _ =>
    refine ⟨?_, fun h => by cases h⟩
    cases other with
    | text otherText => cases same_text_right_iff.mp hsame
    | _ => rfl

theorem isText_of_sameItems {values others : List Json} (hsame : sameItems values others) :
    values.all isText = others.all isText ∧ (values.all isText → values = others) := by
  induction values generalizing others with
  | nil =>
    cases others with
    | nil => exact ⟨rfl, fun _ => rfl⟩
    | cons => simp [sameItems] at hsame
  | cons value values ih =>
    cases others with
    | nil => simp [sameItems] at hsame
    | cons other others =>
      rw [sameItems, Bool.and_eq_true] at hsame
      obtain ⟨htext, heq⟩ := isText_of_same hsame.1
      obtain ⟨hall, hrest⟩ := ih hsame.2
      refine ⟨by rw [List.all_cons, List.all_cons, htext, hall], fun h => ?_⟩
      rw [List.all_cons, Bool.and_eq_true] at h
      rw [heq h.1, hrest h.2]

end Json

open Json (isText_of_same)

namespace DartType

/-- A type as other code sees it: of what is declared, only the class. -/
def outline : DartType → DartType
  | .list element => .list (outline element)
  | .nullable inner => .nullable (outline inner)
  | .map key value => .map (outline key) (outline value)
  | .enum name _ _ | .composite name _ | .object name _ => .reference name
  | type => type

theorem typeName_outline (type : DartType) : type.outline.typeName = type.typeName := by
  match type with
  | .list element => rw [outline, typeName, typeName, typeName_outline element]
  | .nullable inner => rw [outline, typeName, typeName, typeName_outline inner]
  | .map key value =>
    rw [outline, typeName, typeName, typeName_outline key, typeName_outline value]
  | .scalar _ | .temporal | .interval | .enum .. | .composite .. | .object .. | .reference _ => rfl

theorem encode_outline (type : DartType) (value : String) :
    type.outline.encode value = type.encode value := by
  match type with
  | .list element => rw [outline, encode, encode, encode_outline element]
  | .nullable inner => rw [outline, encode, encode, encode_outline inner]
  | .scalar _ | .temporal | .interval | .map .. | .enum .. | .composite .. | .object ..
  | .reference _ => rfl

theorem decode_list (element : DartType) (value : String) :
    (list element).decode value =
      "(" ++ value ++ " as List<dynamic>).map((v) => " ++ element.decode "v" ++ ").toList()" :=
  rfl

theorem decode_nullable (inner : DartType) (value : String) :
    (nullable inner).decode value = value ++ " == null ? null : " ++ inner.decode value :=
  rfl

theorem decode_outline (type : DartType) (value : String) :
    type.outline.decode value = type.decode value := by
  match type with
  | .list element => rw [outline, decode_list, decode_list, decode_outline element]
  | .nullable inner => rw [outline, decode_nullable, decode_nullable, decode_outline inner]
  | .scalar _ | .temporal | .interval | .map .. | .enum .. | .composite .. | .object ..
  | .reference _ => rfl

theorem isNullable_outline (type : DartType) : type.outline.isNullable = type.isNullable := by
  cases type <;> rfl

theorem orNull_outline (type : DartType) : type.outline.orNull = type.orNull.outline := by
  cases type <;> rfl

/-- Equal types whose names are texts look the same from outside, and either none or both of
    them can be written. -/
theorem outline_of_same {type other : DartType} (hsame : type.same other) :
    type.isSpellable = other.isSpellable ∧ (type.isSpellable → type.outline = other.outline) := by
  match type with
  | .list element =>
    cases other with
    | list otherElement =>
      rw [same] at hsame
      obtain ⟨hspellable, houtline⟩ := outline_of_same hsame
      exact ⟨hspellable, fun h => congrArg DartType.list (houtline h)⟩
    | _ => simp [same] at hsame
  | .nullable inner =>
    cases other with
    | nullable otherInner =>
      rw [same] at hsame
      obtain ⟨hspellable, houtline⟩ := outline_of_same hsame
      exact ⟨hspellable, fun h => congrArg DartType.nullable (houtline h)⟩
    | _ => simp [same] at hsame
  | .map key value =>
    cases other with
    | map otherKey otherValue =>
      rw [same, Bool.and_eq_true] at hsame
      obtain ⟨hkey, hkeyOutline⟩ := outline_of_same hsame.1
      obtain ⟨hvalue, hvalueOutline⟩ := outline_of_same hsame.2
      refine ⟨by rw [isSpellable, isSpellable, hkey, hvalue], fun h => ?_⟩
      rw [isSpellable, Bool.and_eq_true] at h
      rw [outline, outline, hkeyOutline h.1, hvalueOutline h.2]
    | _ => simp [same] at hsame
  | .enum name _ _ =>
    cases other with
    | enum =>
      rw [same, Bool.and_eq_true] at hsame
      exact (isText_of_same hsame.1).imp_right fun heq h => congrArg DartType.reference (heq h)
    | _ => simp [same] at hsame
  | .composite name _ =>
    cases other with
    | composite =>
      rw [same, Bool.and_eq_true] at hsame
      exact (isText_of_same hsame.1).imp_right fun heq h => congrArg DartType.reference (heq h)
    | _ => simp [same] at hsame
  | .object name _ =>
    cases other with
    | object =>
      rw [same, Bool.and_eq_true] at hsame
      exact (isText_of_same hsame.1).imp_right fun heq h => congrArg DartType.reference (heq h)
    | _ => simp [same] at hsame
  | .reference name =>
    cases other with
    | reference =>
      rw [same] at hsame
      exact (isText_of_same hsame).imp_right fun heq h => congrArg DartType.reference (heq h)
    | _ => simp [same] at hsame
  | .scalar keyword =>
    cases other with
    | scalar otherKeyword =>
      rw [same, beq_iff_eq] at hsame
      exact ⟨rfl, fun _ => congrArg DartType.scalar hsame⟩
    | _ => simp [same] at hsame
  | .temporal | .interval =>
    cases other <;> simp [same] at hsame
    exact ⟨rfl, fun _ => rfl⟩

variable {type other : DartType} {fields others : List (Json × DartType)}

theorem list_same (hsame : type.same other) : (list type).same (.list other) := by
  rwa [same]

theorem unwrap_same {type other : DartType} (hsame : type.same other) :
    type.unwrap.same other.unwrap := by
  match type with
  | .list element =>
    cases other with
    | list otherElement =>
      rw [same] at hsame
      have hinside := unwrap_same hsame
      exact hinside
    | _ => simp [same] at hsame
  | .nullable inner =>
    cases other with
    | nullable otherInner =>
      rw [same] at hsame
      have hinside := unwrap_same hsame
      exact hinside
    | _ => simp [same] at hsame
  | .scalar _ | .temporal | .interval | .map .. | .enum .. | .composite .. | .object ..
  | .reference _ =>
    cases other <;> first | exact hsame | simp [same] at hsame

theorem orNull_eq (type : DartType) :
    type.orNull = if type.isNullable then type else .nullable type := by
  cases type <;> rfl

theorem isNullable_eq_of_same (hsame : type.same other) :
    type.isNullable = other.isNullable := by
  cases type <;> cases other <;> first | rfl | simp [same] at hsame

theorem orNull_same (hsame : type.same other) : type.orNull.same other.orNull := by
  rw [orNull_eq, orNull_eq, isNullable_eq_of_same hsame]
  split
  · exact hsame
  · rwa [same]

theorem Textual.isSpellable (h : type.Textual) : type.isSpellable := by
  induction h with
  | scalar | temporal | interval => rfl
  | list _ ih => exact ih
  | nullable _ ih => exact ih
  | map _ _ ihkey ihvalue =>
    rw [DartType.isSpellable, ihkey, ihvalue]
    rfl
  | enum _ hname | composite hname | object hname | reference hname =>
    obtain ⟨text, rfl⟩ := hname
    rfl

theorem kind_eq_of_same (hsame : type.same other) : type.kind = other.kind := by
  cases type <;> cases other <;> first | rfl | simp [same] at hsame

theorem sameFields_orNull (hsame : sameFields fields others) :
    sameFields (fields.map fun (key, type) => (key, type.orNull))
      (others.map fun (key, type) => (key, type.orNull)) := by
  induction fields generalizing others with
  | nil =>
    cases others with
    | nil => rfl
    | cons => simp [sameFields] at hsame
  | cons field fields ih =>
    cases others with
    | nil => simp [sameFields] at hsame
    | cons other others =>
      simp only [sameFields, Bool.and_eq_true] at hsame
      simp only [List.map_cons, sameFields, Bool.and_eq_true]
      exact ⟨⟨hsame.1.1, orNull_same hsame.1.2⟩, ih hsame.2⟩

theorem isNamed_eq_of_sameFields (hsame : sameFields fields others) :
    (fields.all fun (key, type) => key.isText && type.isSpellable) =
        (others.all fun (key, type) => key.isText && type.isSpellable) ∧
      ((fields.all fun (key, type) => key.isText && type.isSpellable) →
        fields.map (Prod.map id outline) = others.map (Prod.map id outline)) := by
  induction fields generalizing others with
  | nil =>
    cases others with
    | nil => exact ⟨rfl, fun _ => rfl⟩
    | cons => simp [sameFields] at hsame
  | cons field fields ih =>
    cases others with
    | nil => simp [sameFields] at hsame
    | cons other others =>
      simp only [sameFields, Bool.and_eq_true] at hsame
      obtain ⟨htext, hkey⟩ := isText_of_same hsame.1.1
      obtain ⟨hspellable, houtline⟩ := outline_of_same hsame.1.2
      obtain ⟨hall, hrest⟩ := ih hsame.2
      refine ⟨by simp only [List.all_cons, htext, hspellable, hall], fun h => ?_⟩
      simp only [List.all_cons, Bool.and_eq_true] at h
      simp only [List.map_cons, Prod.map, id, hkey h.1.1, houtline h.1.2, hrest h.2]

end DartType

namespace Dart

/-- A record whose members are seen from outside. -/
def RecordClass.outline (record : RecordClass) : RecordClass :=
  { record with members := record.members.map (Prod.map id DartType.outline) }

namespace RecordClass

section

variable (record : RecordClass)

/-- What is made of each member is the same for a record that is seen from outside, if it takes no
    more of a type than that. -/
theorem map_members_outline {α : Type} {part : Json × DartType → α}
    (hpart : ∀ key type, part (key, type.outline) = part (key, type)) :
    record.outline.members.map part = record.members.map part := by
  rw [outline, List.map_map]
  exact List.map_congr_left fun member _ => hpart member.1 member.2

theorem fields_outline : record.outline.fields = record.fields := by
  unfold fields
  rw [map_members_outline]
  intro key type
  simp only [DartType.typeName_outline]

theorem optionalParameters_outline :
    record.outline.optionalParameters = record.optionalParameters := by
  unfold optionalParameters
  rw [map_members_outline]
  intro key type
  simp only [DartType.orNull_outline, DartType.typeName_outline]

theorem constructor_outline : record.outline.constructor = record.constructor := by
  unfold constructor
  rw [map_members_outline]
  · rfl
  · intro key type
    simp only [DartType.isNullable_outline]

theorem generateMap_outline : record.outline.generateMap = record.generateMap := by
  have hempty : record.outline.members.isEmpty = record.members.isEmpty := List.isEmpty_map
  unfold generateMap
  rw [optionalParameters_outline, hempty, map_members_outline]
  intro key type
  simp only [mapEntry, DartType.encode_outline]

theorem toJson_outline : record.outline.toJson = record.toJson := by
  unfold toJson
  rw [map_members_outline]
  exact fun _ _ => rfl

theorem fromJson_outline : record.outline.fromJson = record.fromJson := by
  unfold fromJson
  rw [map_members_outline]
  · rfl
  · intro key type
    simp only [DartType.decode_outline]

theorem copyWith_outline : record.outline.copyWith = record.copyWith := by
  unfold copyWith
  rw [optionalParameters_outline, map_members_outline]
  · rfl
  · exact fun _ _ => rfl

/-- The code of a record takes no more of the types of its members than is seen from outside. -/
theorem source_outline (header extra : List String) :
    record.outline.source header extra = record.source header extra := by
  unfold source
  rw [fields_outline, constructor_outline, generateMap_outline, toJson_outline, fromJson_outline,
    copyWith_outline]
  rfl

end

/-- Records of one class with equal members have the same code, if any of them can be written. -/
theorem source_eq_of_sameFields (className : String) {members others : List (Json × DartType)}
    (hsame : DartType.sameFields members others) :
    (RecordClass.mk className members).isSpellable = (RecordClass.mk className others).isSpellable ∧
      ((RecordClass.mk className members).isSpellable → ∀ header extra,
        (RecordClass.mk className members).source header extra =
          (RecordClass.mk className others).source header extra) := by
  obtain ⟨hspellable, houtline⟩ := DartType.isNamed_eq_of_sameFields hsame
  refine ⟨hspellable, fun h header extra => ?_⟩
  rw [← source_outline, ← source_outline (RecordClass.mk className others), outline, outline,
    houtline h]

end RecordClass

open DartType (sameFields)

variable {type other : DartType} {name otherName : Json}
  {fields others : List (Json × DartType)}

/-- Equal records of equal names are written alike, or neither of them is. -/
theorem recordText_of_same (hname : name.same otherName) (hfields : sameFields fields others) :
    (if name.isText && (RecordClass.mk (DartType.classNameOf name) fields).isSpellable then
        .ok ((RecordClass.mk (DartType.classNameOf name) fields).source [] [])
      else .error .nameNotText : Except Fault String) =
      if otherName.isText && (RecordClass.mk (DartType.classNameOf otherName) others).isSpellable
        then .ok ((RecordClass.mk (DartType.classNameOf otherName) others).source [] [])
      else .error .nameNotText := by
  obtain ⟨htext, heq⟩ := Json.isText_of_same hname
  cases hspelled : name.isText with
  | false => simp [← htext, hspelled]
  | true =>
    cases heq hspelled
    obtain ⟨hspellable, hsource⟩ :=
      RecordClass.source_eq_of_sameFields (DartType.classNameOf name) hfields
    rw [Bool.true_and, hspelled, Bool.true_and, ← hspellable]
    split
    · next hwritten => rw [hsource hwritten]
    · rfl

theorem declaration_of_same (hsame : type.same other)
    (hrecord : ∀ name values labels, type ≠ .enum name values labels) :
    declaration type = declaration other := by
  cases type with
  | enum name values labels => exact absurd rfl (hrecord name values labels)
  | composite name fields =>
    cases other with
    | composite otherName others =>
      rw [DartType.same, Bool.and_eq_true] at hsame
      exact recordText_of_same hsame.1 (DartType.sameFields_orNull hsame.2)
    | _ => simp [DartType.same] at hsame
  | object name fields =>
    cases other with
    | object otherName others =>
      rw [DartType.same, Bool.and_eq_true] at hsame
      exact recordText_of_same hsame.1 hsame.2
    | _ => simp [DartType.same] at hsame
  | _ =>
    have hkind := DartType.kind_eq_of_same hsame
    cases other <;> first | exact congrArg (Except.error ∘ Fault.noDeclaration) hkind |
      simp [DartType.same] at hsame

/-- Equal enums are written alike but for their labels, or neither of them is. -/
theorem declaration_enum_of_same {values : List Json} {labels : Option Translations}
    (hsame : (DartType.enum name values labels).same other) :
    (declaration (.enum name values labels) = .error .nameNotText ∧
      declaration other = .error .nameNotText) ∨
    ∃ otherLabels lines, other = .enum name values otherLabels ∧
      declaration (.enum name values labels) = .ok (Text.lines
        (lines ++ (enumClass name values labels).translationSection ++ ["\x7d"])) ∧
      declaration other = .ok (Text.lines
        (lines ++ (enumClass name values otherLabels).translationSection ++ ["\x7d"])) := by
  cases other with
  | enum otherName otherValues otherLabels =>
    rw [DartType.same, Bool.and_eq_true] at hsame
    obtain ⟨htext, heq⟩ := Json.isText_of_same hsame.1
    obtain ⟨hall, hvalues⟩ := Json.isText_of_sameItems hsame.2
    cases hspelled : name.isText && values.all Json.isText with
    | false =>
      refine .inl ⟨if_neg (by simp [hspelled]), if_neg ?_⟩
      rw [← htext, ← hall, hspelled]
      simp
    | true =>
      have hboth := hspelled
      rw [Bool.and_eq_true] at hboth
      cases heq hboth.1
      cases hvalues hboth.2
      exact .inr ⟨otherLabels, _, rfl, if_pos hspelled, if_pos hspelled⟩
  | _ => simp [DartType.same] at hsame

/-- What is made of texts only can be declared. -/
theorem exists_declaration (htextual : type.Textual) (hdeclarable : type.isDeclarable) :
    ∃ text, declaration type = .ok text := by
  have hall {fields : List (Json × DartType)}
      (hkeys : ∀ field ∈ fields, ∃ text, field.1 = .text text)
      (hfields : ∀ field ∈ fields, field.2.Textual) :
      ∀ field ∈ fields, field.1.isText ∧ field.2.isSpellable := by
    intro field hfield
    obtain ⟨text, htext⟩ := hkeys field hfield
    rw [htext]
    exact ⟨rfl, (hfields field hfield).isSpellable⟩
  cases htextual with
  | enum labels hname hvalues =>
    obtain ⟨text, rfl⟩ := hname
    refine ⟨_, if_pos ?_⟩
    rw [Bool.and_eq_true, List.all_eq_true]
    refine ⟨rfl, fun value hvalue => ?_⟩
    obtain ⟨valueText, rfl⟩ := hvalues value hvalue
    rfl
  | composite hname hkeys hfields =>
    obtain ⟨text, rfl⟩ := hname
    refine ⟨_, if_pos ?_⟩
    simp only [compositeClass, RecordClass.isSpellable, List.all_map, Function.comp_def,
      Bool.and_eq_true, List.all_eq_true, DartType.isSpellable_orNull]
    exact ⟨rfl, hall hkeys hfields⟩
  | object hname hkeys hfields =>
    obtain ⟨text, rfl⟩ := hname
    refine ⟨_, if_pos ?_⟩
    simp only [objectClass, RecordClass.isSpellable, Bool.and_eq_true, List.all_eq_true]
    exact ⟨rfl, hall hkeys hfields⟩
  | _ => cases hdeclarable

end Dart

/-- A file is the same with one declaration in place of another one that is written alike. -/
theorem Generator.render_replaced {generator : Generator} {snapshot : Snapshot}
    {resolution : Resolution} {before after : List DartType} {type other : DartType}
    (halike : Dart.declaration type = Dart.declaration other)
    (hdeclared : resolution.declarables = before ++ type :: after) :
    generator.render snapshot { resolution with declarables := before ++ other :: after } =
      generator.render snapshot resolution := by
  have hwritten : (before ++ other :: after).mapM Dart.declaration =
      (before ++ type :: after).mapM Dart.declaration := by
    simp only [List.mapM_append, List.mapM_cons, halike]
  unfold render Dart.source
  rw [hdeclared, hwritten]

namespace SchemaRecord

/-- A record is not kept behind one of its class. -/
theorem firstOfClass_drop {kept record : SchemaRecord} {before : List SchemaRecord}
    (hkept : kept ∈ before) (hclass : kept.className = record.className)
    (after : List SchemaRecord) :
    firstOfClass (before ++ record :: after) = firstOfClass (before ++ after) := by
  obtain ⟨first, hfirst, hsame⟩ := exists_picked_of_class (picks_firstOfClass before) kept hkept
  have hknown : (firstOfClass before).any fun other => other.className == record.className :=
    List.any_eq_true.mpr ⟨first, hfirst, by simp [hsame, hclass]⟩
  have hdropped : firstOfClass (before ++ [record]) = firstOfClass before := by
    rw [firstOfClass_concat, if_pos hknown]
  unfold firstOfClass at hdropped ⊢
  rw [← List.singleton_append, ← List.append_assoc, List.foldl_append, hdropped, List.foldl_append]

end SchemaRecord

namespace DartType

/-- Equal types have the same code, as far as their names are texts. They stay equal inside and
    under lists and null. Records that are equal have one and the same declaration, whatever the
    labels of the enums in them; declarations of equal enums differ in labels only. So a file
    does not depend on which of two equal records it declares, and a schema's record that is
    equal to one before it adds nothing. -/
theorem written_of_same {type other : DartType} (hsame : type.same other) :
    (type.isSpellable → type.typeName = other.typeName ∧ ∀ value,
      type.encode value = other.encode value ∧ type.decode value = other.decode value) ∧
    type.unwrap.same other.unwrap ∧ type.orNull.same other.orNull ∧
    (list type).same (.list other) ∧
    ((∀ name values labels, type ≠ .enum name values labels) →
      Dart.declaration type = Dart.declaration other ∧
      ∀ (generator : Generator) (snapshot : Snapshot) (resolution : Resolution) before after,
        resolution.declarables = before ++ type :: after →
          generator.render snapshot { resolution with declarables := before ++ other :: after } =
            generator.render snapshot resolution) ∧
    (∀ name values labels, type = .enum name values labels →
      (Dart.declaration type = .error .nameNotText ∧
        Dart.declaration other = .error .nameNotText) ∨
      ∃ otherLabels lines, other = .enum name values otherLabels ∧
        Dart.declaration type = .ok (Text.lines
          (lines ++ (Dart.enumClass name values labels).translationSection ++ ["\x7d"])) ∧
        Dart.declaration other = .ok (Text.lines
          (lines ++ (Dart.enumClass name values otherLabels).translationSection ++ ["\x7d"]))) ∧
    (type.Textual → type.isDeclarable → ∃ text, Dart.declaration type = .ok text) ∧
    ∀ kept record : SchemaRecord, kept.toType = type → record.toType = other → kept.name.isText →
      ∀ before after, kept ∈ before →
        SchemaRecord.firstOfClass (before ++ record :: after) =
          SchemaRecord.firstOfClass (before ++ after) := by
  have houtline := (outline_of_same hsame).2
  refine ⟨fun hspellable => ⟨?_, fun value => ⟨?_, ?_⟩⟩, unwrap_same hsame, orNull_same hsame,
    list_same hsame, fun hrecord => ?_, ?_, Dart.exists_declaration, ?_⟩
  · rw [← typeName_outline, houtline hspellable, typeName_outline]
  · rw [← encode_outline, houtline hspellable, encode_outline]
  · rw [← decode_outline, houtline hspellable, decode_outline]
  · have halike := Dart.declaration_of_same hsame hrecord
    exact ⟨halike, fun generator snapshot resolution before after =>
      Generator.render_replaced halike⟩
  · rintro name values labels rfl
    exact Dart.declaration_enum_of_same hsame
  · rintro kept record rfl rfl htext before after hkept
    have hclasses := congrArg typeName (houtline htext)
    exact SchemaRecord.firstOfClass_drop hkept hclasses after

def state (label : String) : DartType :=
  .enum (.text "state") [.text "open"] (some [("en", [("open", label)])])

def ticket (label : String) : DartType :=
  .composite (.text "ticket") [(.text "states", .list (state label))]

/-- Two records with labels that differ have one declaration. -/
theorem written_of_same_tickets :
    (ticket "Open").same (ticket "To do") ∧ ticket "Open" ≠ ticket "To do" ∧
      ∃ text, Dart.declaration (ticket "Open") = .ok text ∧
        Dart.declaration (ticket "To do") = .ok text := by
  have hsame : (ticket "Open").same (ticket "To do") := by
    simp [ticket, state, same, sameFields, Json.same, Json.sameItems, Json.key?]
  have htextual : (ticket "Open").Textual := by
    refine .composite ⟨_, rfl⟩ (by simp) ?_
    simpa using .list (.enum _ ⟨_, rfl⟩ (by simp))
  obtain ⟨_, _, _, _, hrecord, _, hdeclared, _⟩ := written_of_same hsame
  obtain ⟨text, htext⟩ := hdeclared htextual rfl
  have hother := (hrecord fun _ _ _ => by simp [ticket]).1.symm.trans htext
  exact ⟨hsame, by simp [ticket, state], text, htext, hother⟩

end DartType
end DartModels
