import DartModels.Dart.RowClass
import DartModels.Proofs.Resolution.Override

namespace DartModels

namespace DartType

theorem isSpellable_orNull (type : DartType) : type.orNull.isSpellable = type.isSpellable := by
  cases type <;> rfl

theorem isSpellable_wrapped (isArray : Bool) (type : DartType) :
    (Mapping.wrapped isArray type).isSpellable = type.isSpellable := by
  cases isArray <;> rfl

theorem isSpellable_of_builtin? {base : String} {type : DartType} (h : builtin? base = some type) :
    type.isSpellable := by
  unfold builtin? at h
  split at h <;> cases h <;> rfl

end DartType

theorem Mapping.Maps.isSpellable {locales : List String} {registry : Registry} {type : CatalogType}
    {notes : List Diagnostic} {target : DartType} (h : Maps locales registry type notes target)
    (hregistered : ∀ name element, registry.findNamed? name = some element →
      element.isSpellable) : target.isSpellable := by
  cases h with
  | @element element _ helement =>
    have hspellable : element.isSpellable := hregistered _ _ helement
    exact hspellable
  | builtin _ hbuiltin =>
    rw [DartType.isSpellable_wrapped]
    exact DartType.isSpellable_of_builtin? hbuiltin
  | enum => rw [DartType.isSpellable_wrapped]; rfl
  | composite => rw [DartType.isSpellable_wrapped]; rfl
  | unmatched => rfl

namespace Generator

variable {generator : Generator} {snapshot : Snapshot} {resolution : Resolution}

/-- All that is registered for catalog types can be written. -/
theorem Settled.isSpellable {locales : List String} {done : List CatalogType}
    {notes : List Diagnostic} {registry : Registry} {declarables : List DartType}
    (h : Settled locales done notes registry declarables) {name : String} {target : DartType}
    (htarget : registry.findNamed? name = some target) : target.isSpellable := by
  obtain ⟨type, _, hentry⟩ := h.mem_catalogEntries_of_findNamed? htarget
  exact h.keeps (·.isSpellable) (fun hmaps hnamed _ => hmaps.isSpellable hnamed) _ hentry

/-- The type that a run gives a column can be written. -/
theorem Run.isSpellable_columnType (run : Run generator snapshot resolution) {column : Column}
    (hcolumn : column.WellTyped) {forInsert : Bool} {type : DartType}
    (htype : column.type resolution.registry forInsert = .ok type) : type.isSpellable := by
  refine run.columnType_keeps (·.isSpellable) rfl (fun other hother => ?_)
    (fun _ _ htarget => run.settled.isSpellable htarget)
    (fun _ _ _ hchecked => Column.checkedType?_isSpellable hchecked) hcolumn htype
  rwa [DartType.isSpellable_orNull]

end Generator

namespace Dart

variable {relation : Relation} {columns : List Column} {typeOf : Column → Bool → DartType}

theorem rowClass_eq {registry : Registry} (htypes : ∀ column ∈ columns, ∀ forInsert,
    column.type registry forInsert = .ok (typeOf column forInsert)) :
    RowClass.ofColumns relation columns registry = .ok
      { relation
        columns := columns.map fun column =>
          (column, typeOf column false, typeOf column true) } := by
  have htyped : columns.mapM (fun column => do
      return (column, ← column.type registry false, ← column.type registry true)) =
      (.ok (columns.map fun column => (column, typeOf column false, typeOf column true)) :
        Except Fault (List (Column × DartType × DartType))) := by
    rw [mapM_eq_ok_iff, List.forall₂_map_right_iff, List.forall₂_same]
    intro column hcolumn
    rw [htypes column hcolumn, htypes column hcolumn]
    rfl
  rw [RowClass.ofColumns, htyped]
  rfl

theorem rowSource_eq {registry : Registry} (hrelation : relation.WellTyped)
    (hcolumns : ∀ column ∈ columns, column.WellTyped)
    (htypes : ∀ column ∈ columns, ∀ forInsert,
      column.type registry forInsert = .ok (typeOf column forInsert))
    (hspellable : ∀ column ∈ columns, (typeOf column false).isSpellable) (withInsert : Bool) :
    rowSource relation columns registry withInsert =
      .ok (RowClass.source
        { relation
          columns := columns.map fun column => (column, typeOf column false, typeOf column true) }
        withInsert) := by
  have hwritten : RowClass.isSpellable
      { relation
        columns := columns.map fun column =>
          (column, typeOf column false, typeOf column true) } := by
    obtain ⟨name, hname⟩ := hrelation.name
    simp only [RowClass.isSpellable, RowClass.record, RecordClass.isSpellable, List.map_map,
      Bool.and_eq_true, List.all_eq_true, List.forall_mem_map, Function.comp_apply]
    refine ⟨by rw [hname]; rfl, fun column hcolumn => ⟨?_, hspellable column hcolumn⟩⟩
    obtain ⟨columnName, hcolumnName⟩ := (hcolumns column hcolumn).name
    rw [hcolumnName]
    rfl
  rw [rowSource, rowClass_eq htypes, ok_bind, if_pos hwritten]
  rfl

/-- A row class can be written if its names and types can. Of the registry it takes only the
    types of its columns. -/
theorem exists_rowSource {registry other : Registry} (hrelation : relation.WellTyped)
    (hcolumns : ∀ column ∈ columns, column.WellTyped)
    (htypes : ∀ column ∈ columns, ∀ forInsert, ∃ type, column.type registry forInsert = .ok type ∧
      column.type other forInsert = .ok type ∧ type.isSpellable) (withInsert : Bool) :
    ∃ text, rowSource relation columns registry withInsert = .ok text ∧
      rowSource relation columns other withInsert = .ok text := by
  choose! typeOf htypeOf hotherTypeOf hspellable using htypes
  exact ⟨_,
    rowSource_eq hrelation hcolumns htypeOf (fun column h => hspellable column h false) withInsert,
    rowSource_eq hrelation hcolumns hotherTypeOf (fun column h => hspellable column h false)
      withInsert⟩

end Dart
end DartModels
