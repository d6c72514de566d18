import DartModels.Proofs.Resolution.RecordOrder

namespace DartModels

open Schema (Event)
open DartType (unlabelledFields)

namespace SchemaRecord

/-- Two records have the same fields: as many, and in the same order the same names with the same
    types. -/
def SameFields (record other : SchemaRecord) : Prop :=
  DartType.sameFields record.fields other.fields = true

/-- A record can be reached from something that was entered. -/
def Entered (events : List Event) (record : SchemaRecord) : Prop :=
  ∃ type ∈ events.filterMap Event.type?, Holds type record

theorem sameFields_iff {record other : SchemaRecord} (hrecord : record.toType.Textual)
    (hother : other.toType.Textual) :
    record.SameFields other ↔ unlabelledFields record.fields = unlabelledFields other.fields := by
  cases hrecord with
  | object _ hkeys hfields =>
    cases hother with
    | object _ hotherKeys hotherFields =>
      apply DartType.sameFields_iff hkeys hotherKeys
      intro field hfield otherField hotherField
      exact (hfields field hfield).same_iff (hotherFields otherField hotherField)

/-- To be the same, records need the same name besides the same fields. -/
theorem same_iff_sameFields {record other : SchemaRecord} (hrecord : record.toType.Textual)
    (hother : other.toType.Textual) :
    record.same other ↔ record.name = other.name ∧ record.SameFields other := by
  cases hrecord with
  | object hname =>
    cases hother with
    | object hotherName =>
      rw [same, toType, toType, DartType.same, Bool.and_eq_true, SameFields,
        Json.same_text_iff hname hotherName]

theorem unlabelledFields_eq {record other : SchemaRecord}
    (h : record.toType.unlabelled = other.toType.unlabelled) :
    record.name = other.name ∧ unlabelledFields record.fields = unlabelledFields other.fields := by
  simpa only [toType, DartType.unlabelled, DartType.object.injEq] using h

section

variable {kept records : List SchemaRecord} (hclasses : (kept.map className).Nodup)
  (hkept : ∀ record ∈ kept, record.toType.Textual)
  (hcover : ∀ record ∈ records, ∃ other ∈ kept, other.className = record.className)
  (htextual : ∀ record ∈ records, record.toType.Textual)
include hclasses hkept hcover htextual

/-- A conflict is between records that differ in fields or in name. -/
theorem differs_of_conflicting {record : SchemaRecord}
    (hrecord : record ∈ conflicting kept records) :
    record ∈ records ∧ keptFor kept record ∈ kept ∧
      (keptFor kept record).className = record.className ∧
      ((keptFor kept record).SameFields record → (keptFor kept record).name ≠ record.name) := by
  obtain ⟨hpicks, -⟩ := picks_conflicting hclasses hkept hcover htextual
  have hmem := hpicks.subset hrecord
  obtain ⟨hkeptMem, hclass⟩ := keptFor_spec (hcover record hmem)
  refine ⟨hmem, hkeptMem, hclass, fun hfields hname => ?_⟩
  obtain ⟨front, back, hsplit⟩ := List.append_of_mem hrecord
  rw [hsplit] at hpicks
  obtain ⟨_, _, _, _, hnew⟩ := hpicks.exists_seen
  have hsame := (same_iff_sameFields (hkept _ hkeptMem) (htextual record hmem)).mpr ⟨hname, hfields⟩
  rw [hnew.1 _ hkeptMem hclass] at hsame
  cases hsame

/-- A record whose name is spelled differently from that of the one that is kept for its class is
    among the conflicts, or one of its shape is, whether its fields are different or not. -/
theorem exists_conflicting {record other : SchemaRecord} (hrecord : record ∈ records)
    (hother : other ∈ kept) (hclass : other.className = record.className)
    (hname : other.name ≠ record.name) :
    ∃ found ∈ conflicting kept records, keptFor kept found = other ∧
      found.toType.unlabelled = record.toType.unlabelled := by
  obtain ⟨-, hfound⟩ := picks_conflicting hclasses hkept hcover htextual
  rcases hfound record hrecord with hshape | ⟨found, hmem, hshape⟩
  · rw [eq_keptFor hclasses hother hclass] at hshape
    exact absurd (unlabelledFields_eq hshape).1 hname
  · refine ⟨found, hmem, ?_, hshape⟩
    apply eq_keptFor hclasses hother
    rw [hclass, className_eq_of_unlabelled hshape]

/-- All conflicts are between different fields exactly if no record has the fields, but not the
    name, of the one that is kept for its class. -/
theorem conflicting_differ_iff :
    (∀ record ∈ conflicting kept records, ¬ (keptFor kept record).SameFields record) ↔
      ∀ record ∈ records, ∀ other ∈ kept, other.className = record.className →
        other.SameFields record → other.name = record.name := by
  constructor
  · intro hdiffer record hrecord other hother hclass hfields
    by_contra hname
    obtain ⟨found, hmem, hfor, hshape⟩ :=
      exists_conflicting hclasses hkept hcover htextual hrecord hother hclass hname
    apply hdiffer found hmem
    have hfoundMem := (differs_of_conflicting hclasses hkept hcover htextual hmem).1
    rw [hfor, sameFields_iff (hkept other hother) (htextual found hfoundMem),
      (unlabelledFields_eq hshape).2]
    exact (sameFields_iff (hkept other hother) (htextual record hrecord)).mp hfields
  · intro hnames record hrecord hfields
    obtain ⟨hmem, hkeptMem, hclass, hdiffers⟩ :=
      differs_of_conflicting hclasses hkept hcover htextual hrecord
    exact hdiffers hfields (hnames record hmem _ hkeptMem hclass hfields)

end

end SchemaRecord

open SchemaRecord

/-- What is listed and noted about the records inside some types depends on nothing but these
    records in the order in which they are visited. -/
theorem Registry.exists_visited {events : List Event}
    (htextual : ∀ type ∈ events.filterMap Event.type?, type.Textual) :
    ∃ visited, (∀ record, record ∈ visited ↔ Entered events record) ∧
      (∀ record ∈ visited, record.toType.Textual) ∧
      (events.foldl Registry.record {}).schemaRecords =
        ⟨(conflicting (firstOfClass visited) visited).map fun record =>
            conflict (keptFor (firstOfClass visited) record) record,
          .ok (firstOfClass visited)⟩ := by
  have hentered : ∀ record, record ∈ (events.filterMap Event.type?).flatMap within ↔
      Entered events record := by
    intro record
    rw [List.mem_flatMap, Entered]
    exact exists_congr fun type => and_congr_right fun _ => (visits_within type).mem_iff
  have htextualRecord : ∀ record ∈ (events.filterMap Event.type?).flatMap within,
      record.toType.Textual := by
    intro record hrecord
    obtain ⟨type, htype, hholds⟩ := (hentered record).mp hrecord
    exact holds_textual (htextual type htype) hholds
  refine ⟨_, hentered, htextualRecord, Registry.schemaRecords_eq ?_ ?_⟩
  · rw [foldl_record_schemaTypes]
    rfl
  · intro record hrecord
    cases htextualRecord record hrecord with
    | object hname =>
      obtain ⟨text, htext⟩ := hname
      rw [htext]
      rfl

/-- Each noted conflict is between a record that was entered and the one that is kept for its
    class, and these differ in their fields or in the spelling of their names. All conflicts are
    between different fields exactly if each record that was entered and has the fields of the
    one that is kept for its class has its name too. -/
theorem Registry.schemaRecords_conflicts (events : List Event)
    (htextual : ∀ type ∈ events.filterMap Event.type?, type.Textual) :
    ∃ (kept : List SchemaRecord) (conflicts : List (SchemaRecord × SchemaRecord)),
      (events.foldl Registry.record {}).schemaRecords =
        ⟨conflicts.map fun (other, record) => conflict other record, .ok kept⟩ ∧
      (∀ pair ∈ conflicts, pair.1 ∈ kept ∧ Entered events pair.2 ∧
        pair.1.className = pair.2.className ∧
        (conflict pair.1 pair.2).Says .warning "json_schema_conflict" pair.2.name [] ∧
        (¬ pair.1.SameFields pair.2 ∨ pair.1.name ≠ pair.2.name)) ∧
      ((∀ pair ∈ conflicts, ¬ pair.1.SameFields pair.2) ↔
        ∀ record, Entered events record → ∀ other ∈ kept, other.className = record.className →
          other.SameFields record → other.name = record.name) := by
  obtain ⟨visited, hentered, htextualRecord, hrecords⟩ := Registry.exists_visited htextual
  have hpicks := picks_firstOfClass visited
  have hclasses := nodup_classes hpicks
  have hcover := exists_picked_of_class hpicks
  have hkept : ∀ record ∈ firstOfClass visited, record.toType.Textual :=
    fun record hrecord => htextualRecord record (hpicks.subset hrecord)
  refine ⟨firstOfClass visited, (conflicting (firstOfClass visited) visited).map fun record =>
    (keptFor (firstOfClass visited) record, record), ?_, ?_, ?_⟩
  · rw [hrecords, List.map_map]
    rfl
  · rw [List.forall_mem_map]
    intro record hrecord
    obtain ⟨hmem, hkeptMem, hclass, hdiffers⟩ :=
      differs_of_conflicting hclasses hkept hcover htextualRecord hrecord
    exact ⟨hkeptMem, (hentered record).mp hmem, hclass, says_conflict _ record,
      imp_iff_not_or.mp hdiffers⟩
  · rw [List.forall_mem_map, conflicting_differ_iff hclasses hkept hcover htextualRecord]
    exact forall_congr' fun record => imp_congr_left (hentered record)

/-- Two records for addresses, whose names differ in the case of a letter only. -/
def addressFields : List (Json × DartType) := [(.text "street", .string)]

def addressEvents : List Event :=
  [.derived "home" (.object (.text "home") addressFields),
    .column ⟨.text "Home", .text "Home"⟩ (.object (.text "Home") addressFields)]

/-- A conflict is noted between records that have the same fields. -/
theorem schemaRecords_addresses :
    (∀ type ∈ addressEvents.filterMap Event.type?, type.Textual) ∧
    ∃ kept notes record other, (addressEvents.foldl Registry.record {}).schemaRecords =
      ⟨notes, .ok kept⟩ ∧ other ∈ kept ∧ Entered addressEvents record ∧
      other.SameFields record ∧ conflict other record ∈ notes := by
  have haddress (name : String) : (DartType.object (.text name) addressFields).Textual :=
    .object ⟨_, rfl⟩ (by simp [addressFields]) (by simpa [addressFields] using .scalar _)
  have htextual : ∀ type ∈ addressEvents.filterMap Event.type?, type.Textual := by
    simp [addressEvents, Event.type?, haddress]
  obtain ⟨kept, conflicts, hrecords, hpairs, hiff⟩ :=
    Registry.schemaRecords_conflicts addressEvents htextual
  have hkept : (addressEvents.foldl Registry.record {}).schemaRecords.outcome =
      .ok [⟨.text "home", addressFields⟩] := rfl
  have hkeptEq : kept = [⟨.text "home", addressFields⟩] := by
    rw [hrecords] at hkept
    exact Except.ok.inj hkept
  have hsomeSame : ¬ ∀ pair ∈ conflicts, ¬ pair.1.SameFields pair.2 := by
    rw [hiff]
    intro hnames
    have hentered : Entered addressEvents ⟨.text "Home", addressFields⟩ :=
      ⟨_, by simp [addressEvents, Event.type?], .object _ _⟩
    have hname := hnames _ hentered ⟨.text "home", addressFields⟩ (by simp [hkeptEq]) (by decide)
      rfl
    simp at hname
  push Not at hsomeSame
  obtain ⟨⟨other, record⟩, hpair, hsame⟩ := hsomeSame
  obtain ⟨hother, hentered, -, -⟩ := hpairs _ hpair
  exact ⟨htextual, kept, _, record, other, hrecords, hother, hentered, hsame,
    List.mem_map.mpr ⟨_, hpair, rfl⟩⟩

end DartModels
