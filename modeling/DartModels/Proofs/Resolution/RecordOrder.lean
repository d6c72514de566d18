import DartModels.Proofs.Dart.Identity
import DartModels.Proofs.Resolution.Run
import DartModels.Proofs.Resolution.SchemaRecords

namespace DartModels

open Schema (Event)

namespace SchemaRecord

/-- A type has a record inside it, through null, lists and the fields of records. -/
inductive Holds : DartType → SchemaRecord → Prop where
  | nullable {inner : DartType} {record : SchemaRecord} (h : Holds inner record) :
      Holds (.nullable inner) record
  | list {element : DartType} {record : SchemaRecord} (h : Holds element record) :
      Holds (.list element) record
  | object (name : Json) (fields : List (Json × DartType)) :
      Holds (.object name fields) ⟨name, fields⟩
  | field {name : Json} {fields : List (Json × DartType)} {field : Json × DartType}
      {record : SchemaRecord} (hfield : field ∈ fields) (h : Holds field.2 record) :
      Holds (.object name fields) record

/-- The order in which the records inside a type are visited: those inside the fields of a record
    before the record itself. -/
inductive Visits : DartType → List SchemaRecord → Prop where
  | nullable {inner : DartType} {visited : List SchemaRecord} (h : Visits inner visited) :
      Visits (.nullable inner) visited
  | list {element : DartType} {visited : List SchemaRecord} (h : Visits element visited) :
      Visits (.list element) visited
  | object (name : Json) {fields : List (Json × DartType)}
      {visit : Json × DartType → List SchemaRecord}
      (h : ∀ field ∈ fields, Visits field.2 (visit field)) :
      Visits (.object name fields) (fields.flatMap visit ++ [⟨name, fields⟩])
  | other {type : DartType} (hnullable : ∀ inner, type ≠ .nullable inner)
      (hlist : ∀ element, type ≠ .list element)
      (hobject : ∀ name fields, type ≠ .object name fields) : Visits type []

theorem visits_within (type : DartType) : Visits type (within type) := by
  match type with
  | .nullable inner => exact .nullable (visits_within inner)
  | .list element => exact .list (visits_within element)
  | .object name fields =>
    rw [within_object]
    refine .object name fun field hfield => ?_
    have hsize : sizeOf field.2 < sizeOf (DartType.object name fields) := by
      have := List.sizeOf_lt_of_mem hfield
      obtain ⟨key, type⟩ := field
      simp at *
      omega
    exact visits_within field.2
  | .scalar _ | .temporal | .interval | .map _ _ | .enum _ _ _ | .composite _ _ | .reference _ =>
    exact .other (by simp) (by simp) (by simp)
termination_by sizeOf type
decreasing_by
  · simp
  · simp
  · exact hsize

/-- What is visited are the records inside. -/
theorem Visits.mem_iff {type : DartType} {visited : List SchemaRecord} (h : Visits type visited)
    {record : SchemaRecord} : record ∈ visited ↔ Holds type record := by
  induction h with
  | nullable _ ih =>
    rw [ih]
    exact ⟨.nullable, fun h => by cases h; assumption⟩
  | list _ ih =>
    rw [ih]
    exact ⟨.list, fun h => by cases h; assumption⟩
  | @object name fields visit _ ih =>
    rw [List.mem_append, List.mem_flatMap, List.mem_singleton]
    constructor
    · rintro (⟨field, hfield, hmem⟩ | rfl)
      · exact .field hfield ((ih field hfield).mp hmem)
      · exact .object name fields
    · intro h
      cases h with
      | object => exact .inr rfl
      | field hfield h => exact .inl ⟨_, hfield, (ih _ hfield).mpr h⟩
  | other hnullable hlist hobject =>
    refine ⟨fun h => by simp at h, fun h => ?_⟩
    cases h with
    | nullable => exact absurd rfl (hnullable _)
    | list => exact absurd rfl (hlist _)
    | object => exact absurd rfl (hobject _ _)
    | field => exact absurd rfl (hobject _ _)

/-- In front of each record stand all records inside its fields. -/
def NestedFirst (visited : List SchemaRecord) : Prop :=
  ∀ seen record rest, visited = seen ++ record :: rest →
    ∀ field ∈ record.fields, ∀ nested, Holds field.2 nested → nested ∈ seen

theorem NestedFirst.nil : NestedFirst [] := by
  intro seen record rest h
  simp at h

theorem NestedFirst.append {visited more : List SchemaRecord} (h : NestedFirst visited)
    (hmore : NestedFirst more) : NestedFirst (visited ++ more) := by
  intro seen record rest heq field hfield nested hnested
  rcases List.append_eq_append_iff.mp heq with ⟨before, rfl, hafter⟩ | ⟨before, hbefore, hafter⟩
  · exact List.mem_append_right _ (hmore before record rest hafter field hfield nested hnested)
  · cases before with
    | nil =>
      have hmem := hmore [] record rest hafter.symm field hfield nested hnested
      simp at hmem
    | cons first before =>
      cases hafter
      exact h seen record before hbefore field hfield nested hnested

theorem NestedFirst.concat {visited : List SchemaRecord} {record : SchemaRecord}
    (h : NestedFirst visited)
    (hrecord : ∀ field ∈ record.fields, ∀ nested, Holds field.2 nested → nested ∈ visited) :
    NestedFirst (visited ++ [record]) := by
  intro seen other rest heq field hfield nested hnested
  rcases List.eq_nil_or_concat rest with rfl | ⟨rest, last, rfl⟩
  · obtain ⟨rfl, hlast⟩ := List.append_inj' heq rfl
    cases hlast
    exact hrecord field hfield nested hnested
  · rw [List.concat_eq_append, ← List.cons_append, ← List.append_assoc] at heq
    obtain ⟨heq, _⟩ := List.append_inj' heq rfl
    exact h seen other rest heq field hfield nested hnested

theorem NestedFirst.flatMap {α : Type} {visit : α → List SchemaRecord} {xs : List α}
    (h : ∀ x ∈ xs, NestedFirst (visit x)) : NestedFirst (xs.flatMap visit) := by
  induction xs with
  | nil => exact .nil
  | cons x xs ih =>
    rw [List.forall_mem_cons] at h
    rw [List.flatMap_cons]
    exact h.1.append (ih h.2)

theorem Visits.nestedFirst {type : DartType} {visited : List SchemaRecord}
    (h : Visits type visited) : NestedFirst visited := by
  induction h with
  | nullable _ ih => exact ih
  | list _ ih => exact ih
  | object name h ih =>
    refine (NestedFirst.flatMap ih).concat fun field hfield nested hnested => ?_
    exact List.mem_flatMap.mpr ⟨field, hfield, (h field hfield).mem_iff.mpr hnested⟩
  | other => exact .nil

/-- The records that are kept stand behind the classes of all records inside them. -/
theorem exists_class_before {visited front back : List SchemaRecord} {record : SchemaRecord}
    (hnested : NestedFirst visited) (hpicks : Picks IsNewClass visited (front ++ record :: back))
    {field : Json × DartType} (hfield : field ∈ record.fields) {nested : SchemaRecord}
    (hholds : Holds field.2 nested) : ∃ kept ∈ front, kept.className = nested.className := by
  obtain ⟨seen, rest, hvisited, hfront, _⟩ := hpicks.exists_seen
  exact exists_picked_of_class hfront nested
    (hnested seen record rest hvisited field hfield nested hholds)

theorem nodup_classes {visited picked : List SchemaRecord} (h : Picks IsNewClass visited picked) :
    (picked.map className).Nodup := by
  induction h with
  | nil => exact List.nodup_nil
  | pick h hnew ih =>
    rw [List.map_append, List.map_singleton]
    refine List.nodup_append.mpr ⟨ih, List.nodup_singleton _, ?_⟩
    intro _ hother _ hlast heq
    obtain ⟨other, hmem, rfl⟩ := List.mem_map.mp hother
    exact hnew other (h.subset hmem) (heq.trans (List.mem_singleton.mp hlast))
  | skip _ _ ih => exact ih

theorem holds_textual {type : DartType} (htype : type.Textual) {record : SchemaRecord}
    (h : Holds type record) : record.toType.Textual := by
  induction h with
  | nullable _ ih =>
    cases htype with
    | nullable hinner => exact ih hinner
  | list _ ih =>
    cases htype with
    | list helement => exact ih helement
  | object => exact htype
  | field hfield _ ih =>
    cases htype with
    | object _ _ hfields => exact ih (hfields _ hfield)

section

variable {kept records : List SchemaRecord}

theorem keptFor_spec {record : SchemaRecord}
    (h : ∃ other ∈ kept, other.className = record.className) :
    keptFor kept record ∈ kept ∧ (keptFor kept record).className = record.className := by
  unfold keptFor
  cases hfind : kept.find? fun other => other.className == record.className with
  | none =>
    obtain ⟨other, hother, heq⟩ := h
    exact absurd heq (by simpa using List.find?_eq_none.mp hfind other hother)
  | some other =>
    exact ⟨List.mem_of_find?_eq_some hfind, by simpa using List.find?_some hfind⟩

theorem eq_keptFor (hclasses : (kept.map className).Nodup) {record other : SchemaRecord}
    (hother : other ∈ kept) (heq : other.className = record.className) :
    keptFor kept record = other := by
  obtain ⟨hmem, hclass⟩ := keptFor_spec ⟨other, hother, heq⟩
  exact List.inj_on_of_nodup_map hclasses hmem hother (hclass.trans heq.symm)

/-- A record is the first one of its shape that differs from what is kept for its class. -/
def IsNewConflict (kept seen : List SchemaRecord) (record : SchemaRecord) : Prop :=
  (∀ other ∈ kept, other.className = record.className → other.same record = false) ∧
    ∀ other ∈ seen, other.same record = false

theorem conflicting_concat (kept records : List SchemaRecord) (record : SchemaRecord) :
    conflicting kept (records ++ [record]) =
      if (keptFor kept record).same record || (conflicting kept records).any (record.same ·) then
        conflicting kept records
      else conflicting kept records ++ [record] := by
  simp [conflicting]

theorem same_iff {record other : SchemaRecord} (hrecord : record.toType.Textual)
    (hother : other.toType.Textual) :
    record.same other ↔ record.toType.unlabelled = other.toType.unlabelled :=
  hrecord.same_iff hother

/-- Records of the same shape have the same class. -/
theorem className_eq_of_unlabelled {record other : SchemaRecord}
    (h : record.toType.unlabelled = other.toType.unlabelled) :
    record.className = other.className := by
  simp only [toType, DartType.unlabelled, DartType.object.injEq] at h
  rw [className, className, h.1]

variable (hclasses : (kept.map className).Nodup) (hkept : ∀ record ∈ kept, record.toType.Textual)
  (hcover : ∀ record ∈ records, ∃ other ∈ kept, other.className = record.className)
  (htextual : ∀ record ∈ records, record.toType.Textual)
include hclasses hkept hcover htextual

/-- The conflicts are the records that are the first of their shape and differ from the one of
    their class that is kept. -/
theorem picks_conflicting :
    Picks (IsNewConflict kept) records (conflicting kept records) ∧
      ∀ record ∈ records,
        (keptFor kept record).toType.unlabelled = record.toType.unlabelled ∨
          ∃ found ∈ conflicting kept records,
            found.toType.unlabelled = record.toType.unlabelled := by
  induction records using List.reverseRecOn with
  | nil => exact ⟨.nil, by simp⟩
  | append_singleton records record ih =>
    simp only [List.forall_mem_append, List.forall_mem_singleton] at hcover htextual
    obtain ⟨hpicks, hfound⟩ := ih hcover.1 htextual.1
    obtain ⟨hmem, hclass⟩ := keptFor_spec hcover.2
    have hsame : (keptFor kept record).same record ↔
        (keptFor kept record).toType.unlabelled = record.toType.unlabelled :=
      same_iff (hkept _ hmem) htextual.2
    have hsameFound : ∀ found ∈ conflicting kept records,
        record.same found ↔ record.toType.unlabelled = found.toType.unlabelled :=
      fun found h => same_iff htextual.2 (htextual.1 found (hpicks.subset h))
    rw [conflicting_concat]
    simp only [List.forall_mem_append, List.forall_mem_singleton]
    split
    · next hold =>
      rw [Bool.or_eq_true, List.any_eq_true, hsame] at hold
      refine ⟨hpicks.skip fun hnew => ?_, hfound, hold.imp_right ?_⟩
      · rcases hold with hold | ⟨found, hmemFound, hold⟩
        · exact absurd (hsame.mpr hold) (by simp [hnew.1 _ hmem hclass])
        · have hback := (same_iff (htextual.1 found (hpicks.subset hmemFound)) htextual.2).mpr
            ((hsameFound found hmemFound).mp hold).symm
          exact absurd hback (by simp [hnew.2 found (hpicks.subset hmemFound)])
      · rintro ⟨found, hmemFound, hold⟩
        exact ⟨found, hmemFound, ((hsameFound found hmemFound).mp hold).symm⟩
    · next hnew =>
      rw [Bool.or_eq_true, List.any_eq_true, hsame, not_or] at hnew
      refine ⟨hpicks.pick ⟨fun other hother heq => ?_, fun other hother => ?_⟩, ?_, ?_⟩
      · rw [Bool.eq_false_iff, ← eq_keptFor hclasses hother heq]
        exact hsame.not.mpr hnew.1
      · -- An earlier record of this shape is the kept one or a conflict that was found already.
        rw [Bool.eq_false_iff]
        intro hback
        have hshape := (same_iff (htextual.1 other hother) htextual.2).mp hback
        rcases hfound other hother with hkeptShape | ⟨found, hmemFound, hshapeFound⟩
        · refine hnew.1 ?_
          obtain ⟨hotherMem, hotherClass⟩ := keptFor_spec (hcover.1 other hother)
          rw [eq_keptFor hclasses hotherMem
            (hotherClass.trans (className_eq_of_unlabelled hshape)), hkeptShape, hshape]
        · exact hnew.2 ⟨found, hmemFound,
            (hsameFound found hmemFound).mpr (hshapeFound.trans hshape).symm⟩
      · intro other hother
        exact (hfound other hother).imp_right fun ⟨found, hmemFound, h⟩ =>
          ⟨found, List.mem_append_left _ hmemFound, h⟩
      · exact .inr ⟨record, by simp, rfl⟩

end

end SchemaRecord

open SchemaRecord

theorem Registry.schemaRecords_eq {registry : Registry} {visited : List SchemaRecord}
    (hvisited : registry.schemaTypes.flatMap within = visited)
    (hnamed : ∀ record ∈ visited, record.name.isText) :
    registry.schemaRecords =
      ⟨(conflicting (firstOfClass visited) visited).map fun record =>
          conflict (keptFor (firstOfClass visited) record) record,
        .ok (firstOfClass visited)⟩ := by
  unfold schemaRecords
  rw [hvisited]
  exact if_pos (List.all_eq_true.mpr hnamed)

/-- The records that schemas gave are collected exactly. Let all records inside the types that
    were entered be visited, types in the order of their entry and the records inside a record
    before itself. Kept is the first record of each class, in the order of the visit: classes are
    distinct, none is missing, and what is inside a record has its class kept before it. Noted is
    each other shape of a class once, when it is first visited. -/
theorem Registry.schemaRecords_visited (events : List Event)
    (htextual : ∀ type ∈ events.filterMap Event.type?, type.Textual) :
    ∃ (visit : DartType → List SchemaRecord) (kept conflicts : List SchemaRecord)
      (notes : List Diagnostic),
      (∀ type, Visits type (visit type)) ∧
      (events.foldl Registry.record {}).schemaRecords = ⟨notes, .ok kept⟩ ∧
      Picks IsNewClass ((events.filterMap Event.type?).flatMap visit) kept ∧
      (kept.map className).Nodup ∧
      (∀ type ∈ events.filterMap Event.type?, ∀ record, Holds type record →
        ∃ other ∈ kept, other.className = record.className) ∧
      (∀ front record back, kept = front ++ record :: back → ∀ field ∈ record.fields,
        ∀ nested, Holds field.2 nested → ∃ other ∈ front, other.className = nested.className) ∧
      Picks (IsNewConflict kept) ((events.filterMap Event.type?).flatMap visit) conflicts ∧
      List.Forall₂ (fun note record => (∃ other ∈ kept, other.className = record.className ∧
        note = conflict other record) ∧
        note.Says .warning "json_schema_conflict" record.name []) notes conflicts := by
  let visited := (events.filterMap Event.type?).flatMap within
  have hvisited : (events.foldl Registry.record {}).schemaTypes.flatMap within = visited := by
    rw [foldl_record_schemaTypes]
    rfl
  have htextualRecord : ∀ record ∈ visited, record.toType.Textual := by
    intro record hrecord
    obtain ⟨type, htype, hmem⟩ := List.mem_flatMap.mp hrecord
    exact holds_textual (htextual type htype) ((visits_within type).mem_iff.mp hmem)
  have hnamed : ∀ record ∈ visited, record.name.isText := by
    intro record hrecord
    cases htextualRecord record hrecord with
    | object hname =>
      obtain ⟨text, htext⟩ := hname
      rw [htext]
      rfl
  have hpicks := picks_firstOfClass visited
  have hcover := exists_picked_of_class hpicks
  obtain ⟨hconflicts, _⟩ := picks_conflicting (nodup_classes hpicks)
    (fun record h => htextualRecord record (hpicks.subset h)) hcover htextualRecord
  refine ⟨within, _, _, _, visits_within, schemaRecords_eq hvisited hnamed, hpicks,
    nodup_classes hpicks, ?_, ?_, hconflicts, ?_⟩
  · intro type htype record hrecord
    exact hcover record (List.mem_flatMap.mpr
      ⟨type, htype, (visits_within type).mem_iff.mpr hrecord⟩)
  · intro front record back heq field hfield nested hnested
    rw [heq] at hpicks
    exact exists_class_before (.flatMap fun type _ => (visits_within type).nestedFirst) hpicks
      hfield hnested
  · rw [List.forall₂_map_left_iff, List.forall₂_same]
    intro record hrecord
    obtain ⟨hmem, hclass⟩ := keptFor_spec (hcover record (hconflicts.subset hrecord))
    exact ⟨⟨_, hmem, hclass, rfl⟩, says_conflict _ record⟩

/-- A record of notes, and one of the same class around it. -/
def innerNote : DartType := .object (.text "note") [(.text "text", .string)]

def outerNote : DartType := .object (.text "note") [(.text "note", innerNote.orNull)]

def noteEvents : List Event :=
  [.derived "text" .string, .derived "note" innerNote.orNull,
    .column ⟨.text "note", .text "note"⟩ outerNote]

/-- Of a record inside one of its own class the inner one is kept, and the outer one is noted
    once. -/
theorem schemaRecords_notes :
    (∀ type ∈ noteEvents.filterMap Event.type?, type.Textual) ∧
      ∃ kept notes, (noteEvents.foldl Registry.record {}).schemaRecords = ⟨notes, .ok kept⟩ ∧
        kept.map toType = [innerNote] ∧ notes.length = 1 ∧
        ∀ record, Holds outerNote record → ∃ other ∈ kept, other.className = record.className := by
  have hinner : innerNote.Textual :=
    .object ⟨_, rfl⟩ (by simp) (List.forall_mem_singleton.mpr (.scalar _))
  have houter : outerNote.Textual :=
    .object ⟨_, rfl⟩ (by simp) (List.forall_mem_singleton.mpr (.nullable hinner))
  have htextual : ∀ type ∈ noteEvents.filterMap Event.type?, type.Textual := by
    intro type htype
    simp only [noteEvents, Event.type?, List.filterMap_cons, List.filterMap_nil, List.mem_cons,
      List.not_mem_nil, or_false] at htype
    obtain rfl | rfl | rfl := htype
    · exact .scalar _
    · exact .nullable hinner
    · exact houter
  obtain ⟨_, kept, _, notes, _, heq, _, _, hcover, _⟩ :=
    Registry.schemaRecords_visited noteEvents htextual
  obtain ⟨found, conflicts, hfound, hkept, hnotes⟩ : ∃ kept notes,
      (noteEvents.foldl Registry.record {}).schemaRecords = ⟨notes, .ok kept⟩ ∧
        kept.map toType = [innerNote] ∧ notes.length = 1 := ⟨_, _, rfl, rfl, rfl⟩
  cases heq.symm.trans hfound
  exact ⟨htextual, kept, notes, heq, hkept, hnotes,
    hcover outerNote (by simp [noteEvents, Event.type?])⟩

end DartModels
