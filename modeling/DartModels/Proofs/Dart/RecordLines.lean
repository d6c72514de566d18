import DartModels.Dart.RowClass
import DartModels.Proofs.Dart.Literal
import DartModels.Proofs.Dart.Naming
import DartModels.Proofs.Text.Lines

namespace DartModels

namespace Dart

open Text (linesOf)

/-- A text is a single line. -/
def IsLine (text : String) : Prop :=
  '\n' ∉ text.toList

instance (text : String) : Decidable (IsLine text) :=
  inferInstanceAs (Decidable (_ ∉ _))

@[simp] theorem isLine_append {front back : String} :
    IsLine (front ++ back) ↔ IsLine front ∧ IsLine back := by
  simp [IsLine, not_or]

theorem isLine_literal (value : String) : IsLine (literal value) :=
  lineFeed_notMem_literal value

theorem isLine_propertyName (name : String) : IsLine (propertyName name) := fun hc =>
  absurd (isIdentifierCharacter_of_mem_propertyName _ hc) (by decide)

theorem isLine_className (name : String) : IsLine (className name) := fun hc =>
  absurd (isAlphanum_of_mem_className _ hc) (by decide)

/-- What a line starts with that declares a field. -/
def fieldStart : List Char := "  final ".toList

/-- The lines of a source text that declare fields. -/
def fieldLines (source : String) : List (List Char) :=
  (linesOf source).filter fieldStart.isPrefixOf

/-- Whether two lists differ at some place that both have. -/
def differ : List Char → List Char → Bool
  | c :: cs, d :: ds => c != d || differ cs ds
  | _, _ => false

/-- Whether what stands behind each line feed differs from the start of a field. -/
def differsBehindLines : List Char → Bool
  | [] => true
  | c :: cs => (c != '\n' || differ fieldStart cs) && differsBehindLines cs

theorem differ_append {cs ds : List Char} (h : differ cs ds = true) (es : List Char) :
    differ cs (ds ++ es) = true := by
  induction cs generalizing ds with
  | nil => cases ds <;> cases h
  | cons c cs ih =>
    cases ds with
    | nil => cases h
    | cons d ds =>
      rw [differ, Bool.or_eq_true] at h
      rw [List.cons_append, differ, Bool.or_eq_true]
      exact h.imp_right ih

/-- What differs from a list does not start with it. -/
theorem not_prefix_of_differ {cs ds : List Char} (h : differ cs ds = true) : ¬ cs <+: ds := by
  rintro ⟨rest, rfl⟩
  induction cs with
  | nil => cases rest <;> cases h
  | cons c cs ih =>
    rw [List.cons_append, differ, bne_self_eq_false, Bool.false_or] at h
    exact ih h

/-- No line of a text declares a field. -/
def HasNoField (text : String) : Prop :=
  differsBehindLines ('\n' :: text.toList) = true

/-- No line of a text declares a field but perhaps the first one. -/
def HasNoFieldBehind (text : String) : Prop :=
  differsBehindLines text.toList = true

instance (text : String) : Decidable (HasNoField text) :=
  inferInstanceAs (Decidable (_ = true))

instance (text : String) : Decidable (HasNoFieldBehind text) :=
  inferInstanceAs (Decidable (_ = true))

theorem differsBehindLines_append {cs ds : List Char} (hcs : differsBehindLines cs = true)
    (hds : differsBehindLines ds = true) : differsBehindLines (cs ++ ds) = true := by
  induction cs with
  | nil => exact hds
  | cons c cs ih =>
    rw [differsBehindLines, Bool.and_eq_true, Bool.or_eq_true] at hcs
    rw [List.cons_append, differsBehindLines, Bool.and_eq_true, Bool.or_eq_true]
    exact ⟨hcs.1.imp_right (differ_append · ds), ih hcs.2⟩

theorem differ_of_differsBehindLines {front back : List Char}
    (h : differsBehindLines (front ++ '\n' :: back) = true) : differ fieldStart back = true := by
  induction front with
  | nil => simpa [differsBehindLines] using (Bool.and_eq_true _ _ ▸ h).1
  | cons c front ih =>
    rw [List.cons_append, differsBehindLines, Bool.and_eq_true] at h
    exact ih h.2

theorem IsLine.hasNoFieldBehind {text : String} (h : IsLine text) : HasNoFieldBehind text := by
  have hplain (cs : List Char) (hcs : '\n' ∉ cs) : differsBehindLines cs = true := by
    induction cs with
    | nil => rfl
    | cons c cs ih =>
      rw [List.mem_cons, not_or] at hcs
      simp [differsBehindLines, Ne.symm hcs.1, ih hcs.2]
  exact hplain _ h

theorem HasNoFieldBehind.append {front back : String} (hfront : HasNoFieldBehind front)
    (hback : HasNoFieldBehind back) : HasNoFieldBehind (front ++ back) := by
  rw [HasNoFieldBehind, String.toList_append]
  exact differsBehindLines_append hfront hback

theorem HasNoField.append {front back : String} (hfront : HasNoField front)
    (hback : HasNoFieldBehind back) : HasNoField (front ++ back) := by
  rw [HasNoField, String.toList_append, ← List.cons_append]
  exact differsBehindLines_append hfront hback

theorem HasNoFieldBehind.joined {separator : String} (hseparator : HasNoFieldBehind separator)
    {texts : List String} (htexts : ∀ text ∈ texts, HasNoFieldBehind text) :
    HasNoFieldBehind (Text.joined separator texts) := by
  fun_induction Text.joined separator texts with
  | case1 => rfl
  | case2 text => exact htexts text (List.mem_singleton_self text)
  | case3 text rest _ ih =>
    rw [List.forall_mem_cons] at htexts
    exact (htexts.1.append hseparator).append (ih htexts.2)

/-- Where no line declares a field, none is found. -/
theorem HasNoField.fieldLines_eq {text : String} (h : HasNoField text) : fieldLines text = [] := by
  rw [fieldLines, List.filter_eq_nil_iff]
  intro line hline hfield
  cases hlines : text.toList.splitOn '\n' with
  | nil =>
    rw [linesOf, hlines] at hline
    cases hline
  | cons first rest =>
    -- The line stands behind a line feed, as all lines do once one is put in front of the text.
    have htext : '\n' :: text.toList = (first :: rest).flatMap ('\n' :: ·) := by
      rw [Text.eq_append_flatMap_of_splitOn hlines]
      rfl
    rw [linesOf, hlines] at hline
    obtain ⟨before, after, hsplit⟩ := List.append_of_mem hline
    rw [HasNoField, htext, hsplit, List.flatMap_append, List.flatMap_cons, List.cons_append] at h
    exact not_prefix_of_differ (differ_of_differsBehindLines h)
      ((List.isPrefixOf_iff_prefix.mp hfield).trans (List.prefix_append line _))

theorem fieldLines_eq_singleton {text : String} (hline : IsLine text)
    (hstart : fieldStart <+: text.toList) : fieldLines text = [text.toList] := by
  rw [fieldLines, Text.linesOf_eq_singleton hline]
  simp [List.isPrefixOf_iff_prefix.mpr hstart]

theorem fieldLines_lines {texts : List String} (h : texts ≠ []) :
    fieldLines (Text.lines texts) = texts.flatMap fieldLines := by
  rw [fieldLines, Text.linesOf_lines h, List.filter_flatMap]
  rfl

/-- Entries between brackets stand on lines of their own. -/
theorem HasNoFieldBehind.bracketed {opening closing indent outdent : String}
    (hopening : HasNoFieldBehind opening) (hindent : HasNoFieldBehind ("\n" ++ indent))
    (hclosing : HasNoFieldBehind ("\n" ++ outdent ++ closing)) {entries : List String}
    (hentries : ∀ entry ∈ entries, IsLine entry) :
    HasNoFieldBehind (bracketed opening closing indent outdent entries) := by
  have hlines : HasNoFieldBehind (Text.joined "," (entries.map ("\n" ++ indent ++ ·))) := by
    apply HasNoFieldBehind.joined (by decide)
    rw [List.forall_mem_map]
    exact fun entry hentry => hindent.append (hentries entry hentry).hasNoFieldBehind
  unfold Dart.bracketed
  split
  · decide
  · have hends := (hopening.append hlines).append hclosing
    rwa [← String.append_assoc, ← String.append_assoc] at hends

section

variable {entries : List String} (hentries : ∀ entry ∈ entries, IsLine entry)
include hentries

theorem HasNoFieldBehind.parameters : HasNoFieldBehind (parameters entries) :=
  .bracketed (by decide) (by decide) (by decide) hentries

theorem HasNoFieldBehind.arguments : HasNoFieldBehind (arguments entries) :=
  .bracketed (by decide) (by decide) (by decide) hentries

theorem HasNoFieldBehind.innerArguments : HasNoFieldBehind (innerArguments entries) :=
  .bracketed (by decide) (by decide) (by decide) hentries

end

end Dart

namespace DartType

open Dart (IsLine isLine_append isLine_className)

theorem isLine_typeName_orNull {type : DartType} (h : IsLine type.typeName) :
    IsLine type.orNull.typeName := by
  have hnullable : IsLine (type.typeName ++ "?") := isLine_append.mpr ⟨h, by decide⟩
  cases type <;> first | exact hnullable | exact h

theorem isLine_encode (type : DartType) {value : String} (hvalue : IsLine value) :
    IsLine (type.encode value) := by
  fun_induction type.encode value with
  | case1 | case2 => exact hvalue
  | case5 value element ih =>
    simp only [isLine_append]
    exact ⟨⟨⟨hvalue, by decide⟩, ih (by decide)⟩, by decide⟩
  | case6 value inner ih => exact ih hvalue
  | _ => exact isLine_append.mpr ⟨hvalue, by decide⟩

theorem isLine_decode {type : DartType} (h : IsLine type.typeName) {value : String}
    (hvalue : IsLine value) : IsLine (type.decode value) := by
  fun_induction type.decode value with
  | case1 keyword =>
    rw [typeName] at h
    simp only [isLine_append]
    exact ⟨⟨hvalue, by decide⟩, h⟩
  | case2 | case3 =>
    simp only [isLine_append]
    exact ⟨⟨by decide, hvalue⟩, by decide⟩
  | case4 value element ih =>
    rw [typeName, isLine_append, isLine_append] at h
    simp only [isLine_append]
    exact ⟨⟨⟨⟨by decide, hvalue⟩, by decide⟩, ih h.1.2 (by decide)⟩, by decide⟩
  | case5 value inner ih =>
    rw [typeName, isLine_append] at h
    simp only [isLine_append]
    exact ⟨⟨hvalue, by decide⟩, ih h.1 hvalue⟩
  | case6 => exact isLine_append.mpr ⟨hvalue, by decide⟩
  | _ =>
    simp only [isLine_append]
    exact ⟨⟨⟨isLine_className _, by decide⟩, hvalue⟩, by decide⟩

end DartType

namespace Dart

namespace RecordClass

/-- The names that a class is written with are single lines, and its own name does not start like
    the word in front of fields. -/
structure HasPlainNames (record : RecordClass) : Prop where
  className : IsLine record.className
  start : record.className.toList.head? ≠ some 'f'
  types : ∀ member ∈ record.members, IsLine member.2.typeName

variable {record : RecordClass}

theorem isLine_property (key : Json) : IsLine (property key) :=
  isLine_propertyName key.spelling

theorem isLine_forwarded (keys : List Json) : ∀ entry ∈ forwarded keys, IsLine entry :=
  List.forall_mem_map.mpr fun key _ => by
    simp only [isLine_append]
    exact ⟨⟨isLine_property key, by decide⟩, isLine_property key⟩

theorem hasNoField_constructor (h : record.HasPlainNames) : HasNoField record.constructor := by
  have hentries : ∀ entry ∈ record.members.map (fun member =>
      (if member.2.isNullable then "" else "required ") ++ "this." ++ property member.1),
      IsLine entry := by
    refine List.forall_mem_map.mpr fun member _ => ?_
    simp only [isLine_append]
    refine ⟨⟨?_, by decide⟩, isLine_property member.1⟩
    split <;> decide
  have hstart : HasNoField "  const " := by decide
  exact ((hstart.append h.className.hasNoFieldBehind).append (.parameters hentries)).append
    (by decide)

theorem isLine_optionalParameters (h : record.HasPlainNames) :
    ∀ entry ∈ record.optionalParameters, IsLine entry :=
  List.forall_mem_map.mpr fun member hmember => by
    simp only [isLine_append]
    exact ⟨⟨DartType.isLine_typeName_orNull (h.types member hmember), by decide⟩,
      isLine_property member.1⟩

theorem hasNoField_generateMap (h : record.HasPlainNames) : HasNoField record.generateMap := by
  have hentry (member : Json × DartType) : HasNoFieldBehind (mapEntry member.1 member.2) := by
    have hproperty := isLine_property member.1
    have hstart : HasNoFieldBehind "\n    if (" := by decide
    have hrest : IsLine (property member.1 ++ " != null) " ++ literal member.1.spelling ++ ": " ++
        member.2.encode (property member.1)) := by
      simp only [isLine_append]
      exact ⟨⟨⟨⟨hproperty, by decide⟩, isLine_literal _⟩, by decide⟩,
        member.2.isLine_encode hproperty⟩
    have hmapEntry := hstart.append hrest.hasNoFieldBehind
    rwa [← String.append_assoc, ← String.append_assoc, ← String.append_assoc,
      ← String.append_assoc] at hmapEntry
  have hentries : HasNoFieldBehind
      (Text.joined "," (record.members.map fun member => mapEntry member.1 member.2)) := by
    apply HasNoFieldBehind.joined (by decide)
    exact List.forall_mem_map.mpr fun member _ => hentry member
  have hclosing :
      HasNoFieldBehind ((if record.members.isEmpty then "" else "\n  ") ++ "\x7d;") := by
    split <;> decide
  have hstart : HasNoField "  static Map<String, dynamic> _generateMap" := by decide
  have hmap := (((hstart.append (.parameters (isLine_optionalParameters h))).append
    (by decide : HasNoFieldBehind " => \x7b")).append hentries).append hclosing
  rwa [← String.append_assoc] at hmap

theorem hasNoField_toJson : HasNoField record.toJson := by
  have hstart : HasNoField
      "  @override\n  Map<String, dynamic> toJson() => _generateMap" := by decide
  exact (hstart.append (.arguments (isLine_forwarded _))).append (by decide)

theorem hasNoField_fromJson (h : record.HasPlainNames) : HasNoField record.fromJson := by
  have hentries : ∀ entry ∈ record.members.map (fun member => property member.1 ++ ": " ++
      member.2.decode ("jsonObject[" ++ literal member.1.spelling ++ "]")), IsLine entry := by
    refine List.forall_mem_map.mpr fun member hmember => ?_
    have hjson : IsLine ("jsonObject[" ++ literal member.1.spelling ++ "]") := by
      simp only [isLine_append]
      exact ⟨⟨by decide, isLine_literal _⟩, by decide⟩
    simp only [isLine_append]
    exact ⟨⟨isLine_property member.1, by decide⟩,
      DartType.isLine_decode (h.types member hmember) hjson⟩
  have hstart : HasNoField "  @override\n  factory " := by decide
  have hname := h.className.hasNoFieldBehind
  exact ((((hstart.append hname).append (by decide)).append hname).append
    (.innerArguments hentries)).append (by decide)

theorem hasNoField_copyWith (h : record.HasPlainNames) : HasNoField record.copyWith := by
  have hentries : ∀ entry ∈ record.members.map (fun member => property member.1 ++ ": " ++
      property member.1 ++ " ?? this." ++ property member.1), IsLine entry := by
    refine List.forall_mem_map.mpr fun member _ => ?_
    have hproperty := isLine_property member.1
    simp only [isLine_append]
    exact ⟨⟨⟨⟨hproperty, by decide⟩, hproperty⟩, by decide⟩, hproperty⟩
  have hname := h.className.hasNoFieldBehind
  have hstart : HasNoField ("  " ++ record.className ++ " copyWith") := by
    have hline : HasNoFieldBehind ("  " ++ record.className ++ " copyWith") :=
      ((by decide : HasNoFieldBehind "  ").append hname).append (by decide)
    have hdiffer : differ fieldStart ("  " ++ record.className ++ " copyWith").toList = true := by
      obtain ⟨c, rest, hrest, hc⟩ : ∃ c rest,
          record.className.toList ++ " copyWith".toList = c :: rest ∧ c ≠ 'f' := by
        cases hclass : record.className.toList with
        | nil => exact ⟨' ', "copyWith".toList, rfl, by decide⟩
        | cons c cs => exact ⟨c, _, rfl, fun heq => h.start (by rw [hclass, heq]; rfl)⟩
      have hstart : fieldStart = ' ' :: ' ' :: 'f' :: "inal ".toList := rfl
      have hindent : "  ".toList = [' ', ' '] := rfl
      rw [String.toList_append, String.toList_append, List.append_assoc, hrest, hstart, hindent]
      simp only [List.cons_append, List.nil_append, differ, Bool.or_eq_true, bne_iff_ne]
      exact .inr (.inr (.inl (Ne.symm hc)))
    exact (Bool.and_eq_true _ _).mpr ⟨(Bool.or_eq_true _ _).mpr (.inr hdiffer), hline⟩
  exact ((((hstart.append (.parameters (isLine_optionalParameters h))).append
    (by decide)).append hname).append (.innerArguments hentries)).append (by decide)

theorem fieldLines_field (h : record.HasPlainNames) :
    ∀ field ∈ record.fields, fieldLines field = [field.toList] := by
  refine List.forall_mem_map.mpr fun member hmember => fieldLines_eq_singleton ?_ ?_
  · simp only [isLine_append]
    exact ⟨⟨⟨⟨by decide, h.types member hmember⟩, by decide⟩, isLine_property member.1⟩, by decide⟩
  · simp only [String.toList_append, List.append_assoc]
    exact List.prefix_append _ _

/-- The lines of a class that declare fields are those of its fields, in their order, whatever
    else stands in it. -/
theorem fieldLines_source (h : record.HasPlainNames) {header extra : List String}
    (hheader : header.flatMap fieldLines = []) (hextra : ∀ part ∈ extra, HasNoField part) :
    fieldLines (record.source header extra) = record.fields.map String.toList := by
  have hopening :
      HasNoField ("class " ++ record.className ++ " implements JsonSerializable \x7b") :=
    ((by decide : HasNoField "class ").append h.className.hasNoFieldBehind).append (by decide)
  have hclosing : HasNoField "\x7d" := by decide
  have hsections : ∀ part ∈ [record.constructor, record.generateMap, record.toJson,
      record.fromJson, record.copyWith] ++ extra, ["", part].flatMap fieldLines = [] := by
    have hpart {part : String} (hpart : HasNoField part) : ["", part].flatMap fieldLines = [] := by
      rw [List.flatMap_cons, List.flatMap_singleton, hpart.fieldLines_eq]
      rfl
    simp only [List.forall_mem_append, List.forall_mem_cons]
    exact ⟨⟨hpart (hasNoField_constructor h), hpart (hasNoField_generateMap h),
      hpart hasNoField_toJson, hpart (hasNoField_fromJson h), hpart (hasNoField_copyWith h),
      List.forall_mem_nil _⟩, fun part hmem => hpart (hextra part hmem)⟩
  have hfields : record.fields.flatMap fieldLines = record.fields.map String.toList := by
    rw [List.map_eq_flatMap]
    exact List.flatMap_congr (fieldLines_field h)
  rw [source, fieldLines_lines (by simp), List.flatMap_append, List.flatMap_append,
    List.flatMap_append, List.flatMap_append, List.flatMap_singleton, List.flatMap_singleton,
    hopening.fieldLines_eq, hclosing.fieldLines_eq, hheader, hfields, List.flatMap_assoc,
    List.flatMap_eq_nil_iff.mpr hsections, List.append_nil, List.append_nil]
  rfl

end RecordClass

namespace RowClass

variable {row : RowClass}

theorem hasPlainNames_record (htypes : ∀ entry ∈ row.columns, IsLine entry.2.1.typeName) :
    row.record.HasPlainNames := by
  constructor
  · exact isLine_append.mpr ⟨isLine_className _, by decide⟩
  · rw [record, String.toList_append, DartType.classNameOf]
    by_cases hname : (className row.relation.name.spelling).toList = []
    · rw [hname]
      decide
    · obtain ⟨first, rest, hclass, hupper, -⟩ := isClassName_className hname
      rw [hclass]
      rintro ⟨⟩
      cases hupper
  · exact List.forall_mem_map.mpr htypes

theorem hasNoField_forInsert (htypes : ∀ entry ∈ row.columns, IsLine entry.2.2.typeName) :
    HasNoField row.forInsert := by
  have hparameters : ∀ entry ∈ row.insertParameters, IsLine entry := by
    refine List.forall_mem_map.mpr fun entry hentry => ?_
    simp only [isLine_append]
    refine ⟨⟨⟨?_, htypes entry hentry⟩, by decide⟩, RecordClass.isLine_property entry.1.name⟩
    split <;> decide
  have hstart : HasNoField "  static Map<String, dynamic> forInsert" := by decide
  exact (((hstart.append (.parameters hparameters)).append (by decide)).append
    (.arguments (RecordClass.isLine_forwarded _))).append (by decide)

/-- The lines of a row class that declare fields are those of its fields. -/
theorem fieldLines_source
    (htypes : ∀ entry ∈ row.columns, IsLine entry.2.1.typeName ∧ IsLine entry.2.2.typeName)
    (withInsert : Bool) :
    fieldLines (row.source withInsert) = row.record.fields.map String.toList := by
  have hheader : row.header.flatMap fieldLines = [] := by
    have hname : HasNoField ("  static const tableName = " ++ literal row.relation.name.spelling ++
        ";") :=
      ((by decide : HasNoField "  static const tableName = ").append
        (isLine_literal _).hasNoFieldBehind).append (by decide)
    rw [header, List.flatMap_cons, List.flatMap_singleton, hname.fieldLines_eq]
    rfl
  refine RecordClass.fieldLines_source
    (hasPlainNames_record fun entry hentry => (htypes entry hentry).1) hheader ?_
  cases withInsert with
  | false => exact List.forall_mem_nil _
  | true =>
    exact List.forall_mem_singleton.mpr
      (hasNoField_forInsert fun entry hentry => (htypes entry hentry).2)

end RowClass

end Dart
end DartModels
