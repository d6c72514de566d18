import DartModels.Proofs.Dart.Expression
import DartModels.Proofs.Dart.Rows

namespace DartModels

namespace DartType

theorem orNull_orNull (type : DartType) : type.orNull.orNull = type.orNull := by
  cases type <;> rfl

theorem orNull_eq_of_eq_or_eq {type other : DartType} (h : type = other ∨ type = other.orNull) :
    type.orNull = other.orNull := by
  rcases h with rfl | rfl
  · rfl
  · exact other.orNull_orNull

end DartType

namespace Column

variable {registry : Registry} {column : Column} {own insert : DartType}

/-- The server fills in nothing for a column. -/
theorem mayBeOmitted_eq_false_iff : column.mayBeOmitted = false ↔
    column.isGenerated = false ∧ column.isIdentity = false ∧ column.defaultValue = .null := by
  rw [mayBeOmitted, Bool.or_eq_false_iff, Bool.or_eq_false_iff, and_assoc]
  cases column.defaultValue <;> simp

theorem type_eq_ok_iff {forInsert : Bool} {type : DartType} :
    column.type registry forInsert = .ok type ↔ ∃ base, column.baseType registry = .ok base ∧
      (if column.isNullable || (forInsert && column.mayBeOmitted) then base.orNull else base) =
        type := by
  rw [Column.type, bind_eq_ok_iff]
  simp only [pure_eq_ok, Except.ok.injEq]

/-- An insert takes what a row has, or null in its place. -/
theorem insert_eq_or_eq_orNull (hown : column.type registry false = .ok own)
    (hinsert : column.type registry true = .ok insert) : insert = own ∨ insert = own.orNull := by
  obtain ⟨base, hbase, rfl⟩ := type_eq_ok_iff.mp hown
  obtain ⟨_, hother, rfl⟩ := type_eq_ok_iff.mp hinsert
  cases hbase.symm.trans hother
  rw [Bool.false_and, Bool.or_false, Bool.true_and]
  cases column.isNullable with
  | true => exact .inl rfl
  | false =>
    cases column.mayBeOmitted with
    | true => exact .inr rfl
    | false => exact .inl rfl

/-- Null is not allowed in an insert exactly if nothing allows it: neither the column, nor what the
    server fills in, nor the type that is registered for the column. -/
theorem isNullable_insert_eq_false_iff (hinsert : column.type registry true = .ok insert) :
    insert.isNullable = false ↔ column.isNullable = false ∧ column.isGenerated = false ∧
      column.isIdentity = false ∧ column.defaultValue = .null ∧
      ∃ base, column.baseType registry = .ok base ∧ base.isNullable = false := by
  obtain ⟨base, hbase, rfl⟩ := type_eq_ok_iff.mp hinsert
  have hregistered : (∃ other, column.baseType registry = .ok other ∧ other.isNullable = false) ↔
      base.isNullable = false := by
    simp [hbase]
  rw [Bool.true_and, hregistered]
  cases homitted : column.isNullable || column.mayBeOmitted with
  | true =>
    rw [if_pos rfl, base.isNullable_orNull]
    refine iff_of_false (by simp) fun ⟨hcolumn, hgenerated, hidentity, hdefault, _⟩ => ?_
    rw [hcolumn, mayBeOmitted_eq_false_iff.mpr ⟨hgenerated, hidentity, hdefault⟩] at homitted
    cases homitted
  | false =>
    rw [Bool.or_eq_false_iff, mayBeOmitted_eq_false_iff] at homitted
    simp [homitted]

end Column

namespace Dart

/-- A parameter of the function that builds the JSON form of an insert. -/
structure InsertParameter where
  name : String
  type : DartType
  isRequired : Bool

def InsertParameter.text (parameter : InsertParameter) : String :=
  (if parameter.isRequired then "required " else "") ++ parameter.type.typeName ++ " " ++
    parameter.name

/-- The function that builds the JSON form of an insert. -/
structure InsertCode where
  parameters : List InsertParameter
  /-- What the function that builds the JSON form of an object is given. -/
  forwarded : List (String × Expression)

namespace InsertCode

def text (code : InsertCode) : String :=
  "  static Map<String, dynamic> forInsert" ++
    listed "(\x7b" "\x7d)" "  " (code.parameters.map InsertParameter.text) ++
    " => _generateMap" ++ listed "(" ")" "  " (code.forwarded.map argumentText) ++ ";"

/-- The function fits a class: it has the parameters of the constructor and of the function that
    it calls, passes on nothing that the latter does not take, and demands nothing that the
    former does not demand. -/
structure Fits (code : InsertCode) (record : RecordCode) : Prop where
  constructor_names : code.parameters.map (·.name) = record.parameters.map (·.name)
  names : code.parameters.map (·.name) = record.optional.map Prod.snd
  types : code.parameters.map (·.type.orNull.typeName) = record.optional.map Prod.fst
  forwarded : code.forwarded = code.parameters.map fun parameter =>
    (parameter.name, .name parameter.name)
  required : List.Forall₂ (fun parameter other => parameter.isRequired → other.isRequired)
    code.parameters record.parameters

end InsertCode

/-- The parameter for a column takes what a row has there, or null in its place. It is required
    exactly if nothing else can stand there. -/
structure IsInsertOf (registry : Registry) (column : Column) (parameter : InsertParameter) :
    Prop where
  name : parameter.name = propertyName column.name.spelling
  type : ∃ own, column.type registry false = .ok own ∧
    (parameter.type = own ∨ parameter.type = own.orNull) ∧ parameter.type.orNull = own.orNull
  required_iff : parameter.isRequired ↔ column.isNullable = false ∧ column.isGenerated = false ∧
    column.isIdentity = false ∧ column.defaultValue = .null ∧
    ∃ base, column.baseType registry = .ok base ∧ base.isNullable = false

namespace RowClass

/-- The parameter for a column with its types in a row and in an insert. -/
def insertParameter (entry : Column × DartType × DartType) : InsertParameter :=
  ⟨RecordClass.property entry.1.name, entry.2.2, !entry.2.2.isNullable⟩

def insertCode (row : RowClass) : InsertCode where
  parameters := row.columns.map insertParameter
  forwarded := row.columns.map fun entry =>
    (RecordClass.property entry.1.name, .name (RecordClass.property entry.1.name))

variable (row : RowClass)

theorem insertCode_parameters : row.insertCode.parameters = row.columns.map insertParameter := rfl

theorem insertCode_forwarded : row.insertCode.forwarded = row.columns.map fun entry =>
    (RecordClass.property entry.1.name, .name (RecordClass.property entry.1.name)) := rfl

/-- The code for inserts is what is written for them. -/
theorem insertCode_text : row.forInsert = row.insertCode.text := by
  have hparameters : row.insertCode.parameters.map InsertParameter.text =
      row.insertParameters := by
    rw [insertCode_parameters, insertParameters, List.map_map]
    refine List.map_congr_left fun entry _ => ?_
    cases hnull : entry.2.2.isNullable <;> simp [InsertParameter.text, insertParameter, hnull]
  have hforwarded : row.insertCode.forwarded.map argumentText =
      RecordClass.forwarded (row.columns.map fun entry => entry.1.name) := by
    rw [insertCode_forwarded, RecordClass.forwarded, List.map_map, List.map_map]
    refine List.map_congr_left fun entry _ => ?_
    simp only [Function.comp_apply, argumentText, Expression.text_name]
  unfold forInsert InsertCode.text
  rw [hparameters, hforwarded, ← parameters_eq_listed, ← arguments_eq_listed]

theorem insertCode_fits
    (hinserts : ∀ entry ∈ row.columns, entry.2.2 = entry.2.1 ∨ entry.2.2 = entry.2.1.orNull) :
    row.insertCode.Fits row.record.code := by
  constructor
  · simp [insertCode_parameters, insertParameter, RecordClass.code_parameters,
      RecordClass.parameter, record]
  · simp [insertCode_parameters, insertParameter, RecordClass.code_optional, record]
  · rw [insertCode_parameters, RecordClass.code_optional, record, List.map_map, List.map_map,
      List.map_map]
    refine List.map_congr_left fun entry hentry => ?_
    exact congrArg DartType.typeName (DartType.orNull_eq_of_eq_or_eq (hinserts entry hentry))
  · simp [insertCode_parameters, insertCode_forwarded, insertParameter]
  · rw [insertCode_parameters, RecordClass.code_parameters, record, List.map_map,
      List.forall₂_map_left_iff, List.forall₂_map_right_iff, List.forall₂_same]
    intro entry hentry hrequired
    -- A parameter that takes null in place of a value is not required.
    rcases hinserts entry hentry with hinsert | hinsert
    · rwa [insertParameter, hinsert] at hrequired
    · rw [insertParameter, hinsert, DartType.isNullable_orNull] at hrequired
      cases hrequired

theorem forall₂_insertCode {registry : Registry} {row : RowClass}
    (htypes : ∀ entry ∈ row.columns, entry.1.type registry false = .ok entry.2.1 ∧
      entry.1.type registry true = .ok entry.2.2) :
    List.Forall₂ (IsInsertOf registry) (row.columns.map Prod.fst) row.insertCode.parameters := by
  rw [insertCode_parameters, List.forall₂_map_left_iff, List.forall₂_map_right_iff,
    List.forall₂_same]
  intro entry hentry
  obtain ⟨hown, hinsert⟩ := htypes entry hentry
  have hcases := Column.insert_eq_or_eq_orNull hown hinsert
  constructor
  · rw [insertParameter, RecordClass.property]
  · rw [insertParameter]
    exact ⟨entry.2.1, hown, hcases, DartType.orNull_eq_of_eq_or_eq hcases⟩
  · rw [← Column.isNullable_insert_eq_false_iff hinsert, insertParameter, Bool.not_eq_true']

end RowClass

variable {generator : Generator} {snapshot : Snapshot} {resolution : Resolution}

/-- With what a run settles, a row class can be written for any columns. Its function for inserts
    is the last section of what is written, behind the constructor and the function that builds
    the JSON form, and fits these: it has a parameter for each column, in their order and by their
    names, for a value of the type of the row or null, and demands a value exactly if neither the
    column nor the server nor the registered type allows to leave it out. -/
theorem rowSource_forInsert (hresolve : generator.resolve snapshot = .ok resolution)
    (relation : Relation) (columns : List Column) :
    (∀ text, rowSource relation columns resolution.registry true = .ok text →
      ∃ row, RowClass.ofColumns relation columns resolution.registry = .ok row ∧
        text = row.record.source row.header [row.insertCode.text] ∧
        EndsWithSections text [row.record.code.constructor, row.record.code.generateMap,
          row.record.code.toJson, row.record.code.fromJson, row.record.copyWith,
          row.insertCode.text] ∧
        row.record.constructor = row.record.code.constructor ∧
        row.record.generateMap = row.record.code.generateMap ∧
        List.Forall₂ (IsFieldOf resolution.registry) columns row.record.fields ∧
        List.Forall₂ (IsInsertOf resolution.registry) columns row.insertCode.parameters ∧
        row.insertCode.Fits row.record.code) ∧
    (snapshot.WellTyped → relation.WellTyped → (∀ column ∈ columns, column.WellTyped) →
      ∃ text, rowSource relation columns resolution.registry true = .ok text) := by
  constructor
  · intro text htext
    obtain ⟨row, hrow, htext⟩ := bind_eq_ok_iff.mp htext
    obtain ⟨-, hcolumns, htypes⟩ := RowClass.ofColumns_eq_ok hrow
    have hfields := RowClass.forall₂_fields fun entry hentry => (htypes entry hentry).1
    have hparameters := RowClass.forall₂_insertCode htypes
    rw [hcolumns] at hfields hparameters
    have hfits : row.insertCode.Fits row.record.code := by
      apply row.insertCode_fits
      intro entry hentry
      obtain ⟨hown, hinsert⟩ := htypes entry hentry
      exact Column.insert_eq_or_eq_orNull hown hinsert
    split at htext
    · cases htext
      have hsource : row.source true = row.record.source row.header [row.insertCode.text] := by
        rw [RowClass.source, if_pos rfl, row.insertCode_text]
      rw [hsource]
      exact ⟨row, hrow, rfl, row.record.endsWithSections_source row.header [row.insertCode.text],
        row.record.code_constructor, row.record.code_generateMap, hfields, hparameters, hfits⟩
    · cases htext
  · intro htyped hrelation hcolumns
    obtain ⟨run⟩ := (Generator.resolve_ends htyped generator).of_eq_ok hresolve
    exact run.exists_rowSource hrelation hcolumns true

def shipment : Relation := { id := .int 1, name := .text "shipment" }

def shipmentId : Column :=
  { tableId := .int 1
    name := .text "id"
    format := .text "int8"
    isNullable := false
    isIdentity := true }

def shipmentWeight : Column :=
  { tableId := .int 1, name := .text "weight", format := .text "int8", isNullable := false }

def shipmentClass : Column :=
  { tableId := .int 1
    name := .text "class"
    format := .text "int8"
    isNullable := false
    defaultValue := .text "2" }

def shipmentValue : Column :=
  { tableId := .int 1, name := .text "insured_value", format := .text "int8" }

def shipments : Snapshot :=
  { schemas := []
    tables := [shipment]
    views := []
    columns := [shipmentId, shipmentWeight, shipmentClass, shipmentValue]
    types := [{ id := .int 20, name := .text "int8" }] }

/-- An insert demands only the column that may not be null and that the server does not fill
    in. -/
theorem rowSource_forInsert_shipment :
    ∃ resolution, ({} : Generator).resolve shipments = .ok resolution ∧
      ∃ (text : String) (row : RowClass),
        rowSource shipment shipments.columns resolution.registry true = .ok text ∧
        EndsWithSections text [row.record.code.constructor, row.record.code.generateMap,
          row.record.code.toJson, row.record.code.fromJson, row.record.copyWith,
          row.insertCode.text] ∧
        row.insertCode.parameters.map (·.name) = ["id", "weight", "class_", "insuredValue"] ∧
        (row.insertCode.parameters.filter (·.isRequired)).map (·.name) = ["weight"] ∧
        row.insertCode.Fits row.record.code := by
  have hshipment : shipment.WellTyped := ⟨⟨1, rfl⟩, ⟨_, rfl⟩⟩
  have hcolumns : ∀ column ∈ shipments.columns, column.WellTyped := by
    simp only [shipments, List.forall_mem_cons]
    refine ⟨?_, ?_, ?_, ?_, by simp⟩
    all_goals exact ⟨⟨1, rfl⟩, ⟨_, rfl⟩, ⟨_, rfl⟩, .inl rfl⟩
  have htypes : ∀ type ∈ shipments.types, type.WellTyped := by
    simp only [shipments, List.forall_mem_singleton]
    constructor <;> simp
  have htyped : shipments.WellTyped :=
    ⟨by simp [shipments], by simp [shipments, hshipment], by simp [shipments], hcolumns, htypes⟩
  obtain ⟨resolution, hresolve, hbase⟩ : ∃ resolution,
      ({} : Generator).resolve shipments = .ok resolution ∧
      shipmentWeight.baseType resolution.registry = .ok (.scalar "int") := ⟨_, rfl, rfl⟩
  obtain ⟨hwritten, htotal⟩ := rowSource_forInsert hresolve shipment shipments.columns
  obtain ⟨text, htext⟩ := htotal htyped hshipment hcolumns
  obtain ⟨row, -, -, hsections, -, -, -, hparameters, hfits⟩ := hwritten text htext
  have hlists : row.insertCode.parameters.map (·.name) =
        shipments.columns.map (propertyName ·.name.spelling) ∧
      (row.insertCode.parameters.filter (·.isRequired)).map (·.name) =
        [propertyName shipmentWeight.name.spelling] := by
    -- All that is known of the parameters is how they belong to the columns.
    generalize row.insertCode.parameters = parameters at hparameters ⊢
    obtain _ | ⟨hid, _ | ⟨hweight, _ | ⟨hclass, _ | ⟨hvalue, _ | _⟩⟩⟩⟩ := hparameters
    have hrequired := hweight.required_iff.mpr ⟨rfl, rfl, rfl, rfl, _, hbase, rfl⟩
    constructor
    · simp [shipments, hid.name, hweight.name, hclass.name, hvalue.name]
    · simp [hrequired, hid.required_iff, hclass.required_iff, hvalue.required_iff, hweight.name,
        shipmentId, shipmentClass, shipmentValue]
  obtain ⟨hnames, hdemanded⟩ := hlists
  refine ⟨resolution, hresolve, text, row, htext, hsections, hnames.trans ?_, hdemanded.trans ?_,
    hfits⟩
  · decide +kernel
  · decide +kernel

end Dart
end DartModels
