import DartModels.Catalog.Grouping
import DartModels.Proofs.Catalog.Snapshot
import DartModels.Proofs.Sorting.Sort
import Mathlib.Data.String.Basic

namespace DartModels.Snapshot

open Catalog (labelOf)
open Sorting (Ascending Rearranged ComparesBy)

variable {columns : List Column}

/-- The order of columns is that of their names. -/
theorem isBefore_comparesBy :
    ComparesBy isBefore (·.name.spelling) fun column => ∃ name, column.name = .text name := by
  rintro first second ⟨name, hname⟩ ⟨other, hother⟩
  have hprecedes : (Json.text name).precedes? (.text other) = some (decide (name < other)) := by
    simp [Json.precedes?, Json.key?, Json.Key.precedes?]
  simp only [isBefore, hname, hother, hprecedes, Json.spelling]

theorem sortedByName_spec (hnames : ∀ column ∈ columns, ∃ name, column.name = .text name) :
    ∃ sorted, sortedByName columns = .ok sorted ∧ Ascending (·.name.spelling) sorted ∧
      Rearranged (·.name.spelling) sorted columns :=
  Sorting.sort_spec isBefore_comparesBy hnames

theorem find?_addToGroup (groups : Table (List Column)) (label : Label) (column : Column)
    (key : Json.Key) :
    ((addToGroup groups label column).find? key).getD [] =
      (groups.find? key).getD [] ++ if label.key = key then [column] else [] := by
  rw [addToGroup, Table.find?_insert]
  by_cases hkey : label.key = key
  · simp [hkey]
  · simp [hkey]

theorem mem_keys_addToGroup {groups : Table (List Column)} {label : Label} {column : Column}
    {key : Json.Key} :
    key ∈ (addToGroup groups label column).keys ↔ key ∈ groups.keys ∨ label.key = key := by
  rw [addToGroup, Table.keys_insert]
  split
  · next hmem => exact ⟨.inl, fun h => h.elim id fun hkey => hkey ▸ hmem⟩
  · simp [eq_comm]

/-- One more column is added to one group. -/
theorem flatten_addToGroup_perm (groups : Table (List Column)) (label : Label)
    (column : Column) :
    (addToGroup groups label column).values.flatten.Perm (groups.values.flatten ++ [column]) := by
  obtain ⟨entries⟩ := groups
  induction entries with
  | nil => simp [addToGroup, Table.insert, Table.put, Table.find?, Table.values]
  | cons entry rest ih =>
    simp only [addToGroup, Table.insert, Table.find?, Table.values, Table.put] at ih ⊢
    by_cases hkey : entry.1.key = label.key
    · have hend := (List.perm_append_singleton column (rest.map Prod.snd).flatten).symm
      simpa [hkey] using hend.append_left entry.2
    · simpa [hkey, List.find?_cons] using ih.append_left entry.2

/-- Columns are grouped: each group has the columns of one table in their order, and all groups
    together have each column as often as it is there. -/
structure Grouped (groups : Table (List Column)) (columns : List Column) : Prop where
  nodup : groups.keys.Nodup
  mem_keys : ∀ key, key ∈ groups.keys ↔ ∃ column ∈ columns, (labelOf column.tableId).key = key
  perm : groups.values.flatten.Perm columns
  find? : ∀ key, (groups.find? key).getD [] =
    columns.filter fun column => (labelOf column.tableId).key = key

theorem Grouped.concat {groups : Table (List Column)} (h : Grouped groups columns)
    (column : Column) :
    Grouped (addToGroup groups (labelOf column.tableId) column) (columns ++ [column]) where
  nodup := by
    rw [addToGroup, Table.keys_insert]
    split
    · exact h.nodup
    · next hnew => simpa using h.nodup.concat hnew
  mem_keys key := by
    rw [mem_keys_addToGroup, h.mem_keys]
    simp [or_and_right, exists_or]
  perm := (flatten_addToGroup_perm groups _ column).trans (h.perm.append_right _)
  find? key := by
    rw [find?_addToGroup, h.find?, List.filter_append]
    by_cases hkey : (labelOf column.tableId).key = key
    · simp [hkey]
    · simp [hkey]

/-- Adding columns one after the other to no groups groups them. -/
theorem grouped_foldl_addToGroup (columns : List Column) :
    Grouped ((columns.map fun column => (labelOf column.tableId, column)).foldl
      (fun groups (label, column) => addToGroup groups label column) ⟨[]⟩) columns := by
  induction columns using List.reverseRecOn with
  | nil => constructor <;> simp [Table.keys, Table.labels, Table.values, Table.find?]
  | append_singleton columns column ih =>
    rw [List.map_append, List.foldl_append]
    exact ih.concat column

/-- What is grouped are the columns by name. -/
theorem columnsByTable_spec (hnames : ∀ column ∈ columns, ∃ name, column.name = .text name)
    (hids : ∀ column ∈ columns, ∃ id, column.tableId = .int id) :
    ∃ sorted groups, columnsByTable columns = .ok groups ∧ Ascending (·.name.spelling) sorted ∧
      Rearranged (·.name.spelling) sorted columns ∧ Grouped groups sorted := by
  obtain ⟨sorted, hsorted, hascending, hrearranged⟩ := sortedByName_spec hnames
  have hlabelled : sorted.mapM (fun column => do return (← Catalog.label column.tableId, column)) =
      (.ok (sorted.map fun column => (labelOf column.tableId, column)) :
        Except Fault (List (Label × Column))) := by
    rw [mapM_eq_ok_iff, List.forall₂_map_right_iff, List.forall₂_same]
    intro column hcolumn
    obtain ⟨id, hid⟩ := hids column (hrearranged.perm.mem_iff.mp hcolumn)
    rw [hid]
    rfl
  refine ⟨sorted, _, ?_, hascending, hrearranged, grouped_foldl_addToGroup sorted⟩
  rw [columnsByTable, hsorted, ok_bind, hlabelled]
  rfl

/-- The columns of a relation are looked up by its id. -/
theorem columnsOf_eq (groups : Table (List Column)) {relation : Relation}
    (hrelation : relation.WellTyped) :
    columnsOf groups relation = .ok ((groups.find? (labelOf relation.id).key).getD []) := by
  obtain ⟨id, hid⟩ := hrelation.id
  rw [columnsOf, hid]
  rfl

/-- Where the columns of a table have distinct names, the columns of a table do not depend on
    the order in which all columns come. -/
theorem columnsOf_perm {others : List Column} (hcolumns : ∀ column ∈ columns, column.WellTyped)
    (hnames : (columns.map fun column => (column.tableId, column.name)).Nodup)
    (hperm : others.Perm columns) :
    ∃ groups otherGroups, columnsByTable columns = .ok groups ∧
      columnsByTable others = .ok otherGroups ∧ ∀ relation : Relation, relation.WellTyped →
        ∃ rows, columnsOf groups relation = .ok rows ∧ columnsOf otherGroups relation = .ok rows ∧
          ∀ column ∈ rows, column ∈ columns := by
  have hothers : ∀ column ∈ others, column.WellTyped := fun column hcolumn =>
    hcolumns column (hperm.mem_iff.mp hcolumn)
  obtain ⟨sorted, groups, hgroups, hascending, hrearranged, hgrouped⟩ := columnsByTable_spec
    (fun column hcolumn => (hcolumns column hcolumn).name)
    fun column hcolumn => (hcolumns column hcolumn).tableId
  obtain ⟨otherSorted, otherGroups, hotherGroups, hotherAscending, hotherRearranged,
    hotherGrouped⟩ := columnsByTable_spec
    (fun column hcolumn => (hothers column hcolumn).name)
    fun column hcolumn => (hothers column hcolumn).tableId
  have hsame := hotherRearranged.perm.trans (hperm.trans hrearranged.perm.symm)
  refine ⟨groups, otherGroups, hgroups, hotherGroups, fun relation hrelation => ?_⟩
  obtain ⟨id, hid⟩ := hrelation.id
  have hrows (column : Column) (hcolumn : column ∈ sorted.filter fun column =>
      (labelOf column.tableId).key = (labelOf relation.id).key) :
      column ∈ columns ∧ column.tableId = relation.id := by
    obtain ⟨hmem, hkey⟩ := List.mem_filter.mp hcolumn
    have hmem := hrearranged.perm.mem_iff.mp hmem
    rw [decide_eq_true_eq, Catalog.labelOf_int_inj (hcolumns column hmem).tableId ⟨id, hid⟩] at hkey
    exact ⟨hmem, hkey⟩
  -- two columns of the table that are not in order have the same name, and so are the same
  have heq : (otherSorted.filter fun column =>
        (labelOf column.tableId).key = (labelOf relation.id).key) =
      sorted.filter fun column => (labelOf column.tableId).key = (labelOf relation.id).key := by
    refine List.Perm.eq_of_pairwise (fun first second hfirst hsecond hle hge => ?_)
      (hotherAscending.filter _) (hascending.filter _) (hsame.filter _)
    obtain ⟨hfirstMem, hfirstId⟩ := hrows first ((hsame.filter _).mem_iff.mp hfirst)
    obtain ⟨hsecondMem, hsecondId⟩ := hrows second hsecond
    obtain ⟨name, hname⟩ := (hcolumns first hfirstMem).name
    obtain ⟨other, hother⟩ := (hcolumns second hsecondMem).name
    have hspelling : first.name.spelling = second.name.spelling := le_antisymm hle hge
    rw [hname, hother] at hspelling
    refine List.inj_on_of_nodup_map hnames hfirstMem hsecondMem ?_
    rw [hfirstId, hsecondId, hname, hother]
    exact congrArg (Prod.mk _) (congrArg Json.text hspelling)
  refine ⟨_, ?_, ?_, fun column hcolumn => (hrows column hcolumn).1⟩
  · rw [columnsOf_eq groups hrelation, hgrouped.find?]
  · rw [columnsOf_eq otherGroups hrelation, hotherGrouped.find?, heq]

end DartModels.Snapshot
