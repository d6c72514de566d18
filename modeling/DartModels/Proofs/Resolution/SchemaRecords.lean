import DartModels.Proofs.Dart.Mention
import DartModels.Proofs.Schema.Events
import DartModels.Resolution.SchemaRecords
import Mathlib.Data.List.Induction

namespace DartModels

/-- What is picked from a list, in order: each element that is new behind those before it. -/
inductive Picks {α : Type} (isNew : List α → α → Prop) : List α → List α → Prop where
  | nil : Picks isNew [] []
  | pick {seen picked : List α} {x : α} (h : Picks isNew seen picked) (hnew : isNew seen x) :
      Picks isNew (seen ++ [x]) (picked ++ [x])
  | skip {seen picked : List α} {x : α} (h : Picks isNew seen picked) (hold : ¬ isNew seen x) :
      Picks isNew (seen ++ [x]) picked

theorem Picks.subset {α : Type} {isNew : List α → α → Prop} {xs picked : List α}
    (h : Picks isNew xs picked) : picked ⊆ xs := by
  induction h with
  | nil => exact List.Subset.refl _
  | pick _ _ ih =>
    exact List.append_subset.mpr
      ⟨List.subset_append_of_subset_left _ ih, List.subset_append_right _ _⟩
  | skip _ _ ih => exact List.subset_append_of_subset_left _ ih

/-- What stands before a picked element was picked before it was met. -/
theorem Picks.exists_seen {α : Type} {isNew : List α → α → Prop} {xs front back : List α} {x : α}
    (h : Picks isNew xs (front ++ x :: back)) :
    ∃ seen rest, xs = seen ++ x :: rest ∧ Picks isNew seen front ∧ isNew seen x := by
  generalize hall : front ++ x :: back = picked at h
  induction h generalizing back with
  | nil => simp at hall
  | @pick seen picked last h hnew ih =>
    rcases List.eq_nil_or_concat back with rfl | ⟨back, other, rfl⟩
    · obtain ⟨rfl, hlast⟩ := List.append_inj' hall rfl
      cases hlast
      exact ⟨seen, [], rfl, h, hnew⟩
    · rw [List.concat_eq_append, ← List.cons_append, ← List.append_assoc] at hall
      obtain ⟨hfront, _⟩ := List.append_inj' hall rfl
      obtain ⟨before, rest, rfl, hbefore, hisNew⟩ := ih hfront
      exact ⟨before, rest ++ [last], by simp, hbefore, hisNew⟩
  | @skip seen picked last _ _ ih =>
    obtain ⟨before, rest, rfl, hbefore, hisNew⟩ := ih hall
    exact ⟨before, rest ++ [last], by simp, hbefore, hisNew⟩

namespace SchemaRecord

theorem withinFields_eq (fields : List (Json × DartType)) :
    withinFields fields = fields.flatMap fun field => within field.2 := by
  induction fields with
  | nil => rfl
  | cons field rest ih => rw [withinFields, ih, List.flatMap_cons]

theorem within_object (name : Json) (fields : List (Json × DartType)) :
    within (.object name fields) =
      fields.flatMap (fun field => within field.2) ++ [⟨name, fields⟩] := by
  rw [within, withinFields_eq]

/-- A type that a schema made uses the classes of the records inside it. -/
theorem exists_within {type : DartType} (htype : type.FromSchema) {className : String}
    (hmentions : type.Mentions className) :
    ∃ record ∈ within type, record.className = className := by
  induction htype with
  | scalar => exact absurd hmentions DartType.not_mentions_scalar
  | map =>
    cases hmentions with
    | key h => exact absurd h DartType.not_mentions_scalar
    | value h => exact absurd h DartType.not_mentions_scalar
  | list _ ih =>
    cases hmentions with
    | list h => exact ih h
  | nullable _ _ ih =>
    cases hmentions with
    | nullable h => exact ih h
  | @object name fields _ ih =>
    rw [within_object]
    cases hmentions with
    | object => exact ⟨⟨name, fields⟩, by simp, rfl⟩
    | objectField hfield h =>
      obtain ⟨record, hrecord, hclass⟩ := ih _ hfield h
      exact ⟨record, List.mem_append_left _ (List.mem_flatMap.mpr ⟨_, hfield, hrecord⟩), hclass⟩

/-- A record inside a type that a schema made is itself made by a schema, and what is inside it
    is inside the type. -/
theorem within_within {type : DartType} (htype : type.FromSchema) {record : SchemaRecord}
    (hrecord : record ∈ within type) :
    record.toType.FromSchema ∧ ∀ inner ∈ within record.toType, inner ∈ within type := by
  induction htype with
  | scalar => simp [within] at hrecord
  | map => simp [within] at hrecord
  | list _ ih => exact ih hrecord
  | nullable _ _ ih => exact ih hrecord
  | object name hfields ih =>
    rw [within_object] at hrecord ⊢
    rcases List.mem_append.mp hrecord with hrecord | hrecord
    · obtain ⟨field, hfield, hrecord⟩ := List.mem_flatMap.mp hrecord
      obtain ⟨hmade, hinner⟩ := ih field hfield hrecord
      exact ⟨hmade, fun inner h =>
        List.mem_append_left _ (List.mem_flatMap.mpr ⟨field, hfield, hinner inner h⟩)⟩
    · cases List.mem_singleton.mp hrecord
      refine ⟨.object name hfields, fun inner h => ?_⟩
      rwa [toType, within_object] at h

/-- A record is the first one of its class behind those that are seen before it. -/
def IsNewClass (seen : List SchemaRecord) (record : SchemaRecord) : Prop :=
  ∀ other ∈ seen, other.className ≠ record.className

theorem firstOfClass_concat (records : List SchemaRecord) (record : SchemaRecord) :
    firstOfClass (records ++ [record]) =
      if (firstOfClass records).any fun other => other.className == record.className then
        firstOfClass records
      else firstOfClass records ++ [record] := by
  simp [firstOfClass]

/-- Of picked records of new classes there is one for each class that is seen. -/
theorem exists_picked_of_class {records picked : List SchemaRecord}
    (h : Picks IsNewClass records picked) :
    ∀ record ∈ records, ∃ kept ∈ picked, kept.className = record.className := by
  induction h with
  | nil => simp
  | @pick seen picked record _ _ ih =>
    intro other hother
    rcases List.mem_append.mp hother with hother | hother
    · obtain ⟨kept, hkept, heq⟩ := ih other hother
      exact ⟨kept, List.mem_append_left _ hkept, heq⟩
    · cases List.mem_singleton.mp hother
      exact ⟨record, by simp, rfl⟩
  | @skip seen picked record h hold ih =>
    intro other hother
    rcases List.mem_append.mp hother with hother | hother
    · exact ih other hother
    · cases List.mem_singleton.mp hother
      unfold IsNewClass at hold
      push Not at hold
      obtain ⟨earlier, hearlier, hclass⟩ := hold
      obtain ⟨kept, hkept, heq⟩ := ih earlier hearlier
      exact ⟨kept, hkept, heq.trans hclass⟩

/-- The records that are kept are those of new classes, in the order in which they are met. -/
theorem picks_firstOfClass (records : List SchemaRecord) :
    Picks IsNewClass records (firstOfClass records) := by
  induction records using List.reverseRecOn with
  | nil => exact .nil
  | append_singleton records record ih =>
    rw [firstOfClass_concat]
    split
    · next hany =>
      refine ih.skip fun hnew => ?_
      obtain ⟨kept, hkept, heq⟩ := List.any_eq_true.mp hany
      exact hnew kept (ih.subset hkept) (by simpa using heq)
    · next hnone =>
      refine ih.pick fun other hother heq => hnone ?_
      obtain ⟨kept, hkept, hclass⟩ := exists_picked_of_class ih other hother
      exact List.any_eq_true.mpr ⟨kept, hkept, by simp [hclass, heq]⟩

end SchemaRecord

open SchemaRecord

theorem Registry.schemaRecords_eq_ok {registry : Registry} {records : List SchemaRecord}
    (h : registry.schemaRecords.outcome = .ok records) :
    records = firstOfClass (registry.schemaTypes.flatMap within) := by
  unfold schemaRecords at h
  dsimp only at h
  split at h
  · cases h
    rfl
  · cases h

theorem Registry.isText_of_schemaRecords {registry : Registry} {records : List SchemaRecord}
    (h : registry.schemaRecords.outcome = .ok records) {type : DartType}
    (htype : type ∈ registry.schemaTypes) {record : SchemaRecord} (hrecord : record ∈ within type) :
    record.name.isText := by
  unfold schemaRecords at h
  dsimp only at h
  split at h
  · next hall =>
    exact List.all_eq_true.mp hall record (List.mem_flatMap.mpr ⟨type, htype, hrecord⟩)
  · cases h

/-- Only a record whose name is no text keeps the records from being listed. -/
theorem Registry.schemaRecords_eq_error {registry : Registry} {fault : Fault}
    (h : registry.schemaRecords.outcome = .error fault) :
    fault = .nameNotText ∧ ∃ type ∈ registry.schemaTypes, ∃ record ∈ within type,
      ¬record.name.isText := by
  unfold schemaRecords at h
  dsimp only at h
  split at h
  · cases h
  · next hall =>
    cases h
    simpa [List.all_eq_true, and_assoc] using hall

/-- The records of a registry have every class that a type from a schema uses, and every class
    that they use themselves. -/
theorem Registry.exists_schemaRecord {registry : Registry} {records : List SchemaRecord}
    (h : registry.schemaRecords.outcome = .ok records)
    (hmade : ∀ type ∈ registry.schemaTypes, type.FromSchema) {type : DartType}
    (htype : type ∈ registry.schemaTypes ∨ type ∈ records.map toType) {className : String}
    (hmentions : type.Mentions className) : ∃ record ∈ records, record.className = className := by
  have hpicks := picks_firstOfClass (registry.schemaTypes.flatMap within)
  rw [← schemaRecords_eq_ok h] at hpicks
  obtain ⟨hfromSchema, hwithin⟩ : type.FromSchema ∧
      ∀ inner ∈ within type, inner ∈ registry.schemaTypes.flatMap within := by
    rcases htype with htype | htype
    · exact ⟨hmade type htype, fun inner hinner => List.mem_flatMap.mpr ⟨type, htype, hinner⟩⟩
    · obtain ⟨record, hrecord, rfl⟩ := List.mem_map.mp htype
      obtain ⟨outer, houter, hmem⟩ := List.mem_flatMap.mp (hpicks.subset hrecord)
      obtain ⟨hrecordMade, hinner⟩ := within_within (hmade outer houter) hmem
      exact ⟨hrecordMade, fun inner h => List.mem_flatMap.mpr ⟨outer, houter, hinner inner h⟩⟩
  obtain ⟨record, hrecord, rfl⟩ := exists_within hfromSchema hmentions
  exact exists_picked_of_class hpicks record (hwithin record hrecord)

end DartModels
