import DartModels.Json.Table
import Mathlib.Data.List.Induction
import Mathlib.Data.List.Nodup

namespace DartModels.Table

variable {α : Type}

/-- The keys of the entries, in order. -/
def keys (table : Table α) : List Json.Key :=
  table.labels.map (·.key)

theorem keys_eq (table : Table α) : table.keys = table.entries.map (·.1.key) :=
  List.map_map

theorem find?_isSome_iff (table : Table α) (key : Json.Key) :
    (table.find? key).isSome ↔ key ∈ table.keys := by
  simp [find?, keys_eq]

theorem contains_iff (table : Table α) (key : Json.Key) :
    table.contains key ↔ key ∈ table.keys := by
  simp [contains, keys_eq]

theorem mem_values_of_find? {table : Table α} {key : Json.Key} {value : α}
    (h : table.find? key = some value) : value ∈ table.values := by
  obtain ⟨entry, hfind, rfl⟩ := Option.map_eq_some_iff.mp h
  exact List.mem_map_of_mem (List.mem_of_find?_eq_some hfind)

/-- An insertion adds no value but its own. -/
theorem mem_values_insert {table : Table α} {label : Label} {value other : α}
    (h : other ∈ (table.insert label value).values) : other = value ∨ other ∈ table.values := by
  obtain ⟨entries⟩ := table
  simp only [insert, values] at h ⊢
  induction entries with
  | nil => simpa [put] using h
  | cons entry rest ih =>
    rw [put] at h
    split at h
    · simp only [List.map_cons, List.mem_cons] at h ⊢
      exact h.imp_right .inr
    · simp only [List.map_cons, List.mem_cons] at h ⊢
      rcases h with h | h
      · exact .inr (.inl h)
      · exact (ih h).imp_right .inr

/-- An insertion changes what is found under its own key only. -/
theorem find?_insert (table : Table α) (label : Label) (value : α) (key : Json.Key) :
    (table.insert label value).find? key =
      if label.key = key then some value else table.find? key := by
  obtain ⟨entries⟩ := table
  simp only [insert, find?]
  induction entries with
  | nil => by_cases h : label.key = key <;> simp [put, h]
  | cons entry rest ih =>
    rw [put]
    by_cases hsame : entry.1.key = label.key
    · rw [if_pos hsame]
      by_cases hkey : label.key = key
      · simp [hsame, hkey]
      · simp [hsame, hkey]
    · rw [if_neg hsame]
      by_cases hfound : entry.1.key = key
      · have hkey : label.key ≠ key := fun h => hsame (hfound.trans h.symm)
        simp [hfound, hkey]
      · simpa [List.find?_cons, hfound] using ih

/-- A new key comes last, a key that is there already keeps its place. -/
theorem keys_insert (table : Table α) (label : Label) (value : α) :
    (table.insert label value).keys =
      if label.key ∈ table.keys then table.keys else table.keys ++ [label.key] := by
  obtain ⟨entries⟩ := table
  simp only [keys_eq, insert]
  induction entries with
  | nil => simp [put]
  | cons entry rest ih =>
    rw [put]
    by_cases hsame : entry.1.key = label.key
    · simp [hsame]
    · rw [if_neg hsame, List.map_cons, ih]
      by_cases hmem : label.key ∈ rest.map (·.1.key)
      · simp [hmem]
      · simp [hmem, Ne.symm hsame]

theorem ofList_concat (assignments : List (Label × α)) (assignment : Label × α) :
    ofList (assignments ++ [assignment]) =
      (ofList assignments).insert assignment.1 assignment.2 := by
  simp [ofList]

/-- Of several assignments to one key the last one counts. -/
theorem find?_ofList (assignments : List (Label × α)) (key : Json.Key) :
    (ofList assignments).find? key =
      (assignments.reverse.find? fun assignment => assignment.1.key == key).map Prod.snd := by
  induction assignments using List.reverseRecOn with
  | nil => rfl
  | append_singleton rest assignment ih =>
    rw [ofList_concat, find?_insert, ih, List.reverse_append, List.reverse_singleton,
      List.singleton_append]
    by_cases h : assignment.1.key = key
    · simp [h]
    · rw [if_neg h, List.find?_cons_of_neg (by simpa using h)]

/-- Later assignments go before earlier ones. -/
theorem find?_ofList_append (assignments later : List (Label × α)) (key : Json.Key) :
    (ofList (assignments ++ later)).find? key =
      ((ofList later).find? key).or ((ofList assignments).find? key) := by
  simp only [find?_ofList, List.reverse_append, List.find?_append, Option.map_or]

/-- Of the steps that assign something to a key the last one counts. -/
theorem find?_ofList_filterMap {β : Type} {assigns : β → Option (Label × α)} {steps : List β}
    {key : Json.Key} {value : α} :
    (ofList (steps.filterMap assigns)).find? key = some value ↔
      ∃ before step after label, steps = before ++ step :: after ∧
        assigns step = some (label, value) ∧ label.key = key ∧
        ∀ later ∈ after, ∀ assignment, assigns later = some assignment →
          assignment.1.key ≠ key := by
  rw [find?_ofList, ← List.filterMap_reverse, List.find?_filterMap, Option.map_eq_some_iff]
  simp only [Option.bind_eq_some_iff, List.find?_eq_some_iff_append]
  constructor
  · rintro ⟨⟨label, _⟩, ⟨step, ⟨hkey, after, before, hsteps, hafter⟩, hassigns⟩, rfl⟩
    refine ⟨before.reverse, step, after.reverse, label, ?_, hassigns, ?_, ?_⟩
    · simpa using congrArg List.reverse hsteps
    · simpa [hassigns] using hkey
    · intro later hlater assignment hassignment
      simpa [hassignment] using hafter later (List.mem_reverse.mp hlater)
  · rintro ⟨before, step, after, label, rfl, hassigns, hkey, hafter⟩
    refine ⟨(label, value), ⟨step, ⟨?_, after.reverse, before.reverse, by simp, ?_⟩, hassigns⟩, rfl⟩
    · simpa [hassigns] using hkey
    · intro later hlater
      cases hassignment : assigns later with
      | none => rfl
      | some assignment =>
        simpa using hafter later (List.mem_reverse.mp hlater) assignment hassignment

theorem mem_keys_ofList {assignments : List (Label × α)} {key : Json.Key} :
    key ∈ (ofList assignments).keys ↔ ∃ assignment ∈ assignments, assignment.1.key = key := by
  rw [← find?_isSome_iff, find?_ofList]
  simp

theorem mem_of_find?_ofList {assignments : List (Label × α)} {key : Json.Key} {value : α}
    (h : (ofList assignments).find? key = some value) :
    ∃ label, (label, value) ∈ assignments ∧ label.key = key := by
  rw [find?_ofList] at h
  obtain ⟨⟨label, _⟩, hfind, rfl⟩ := Option.map_eq_some_iff.mp h
  have hkey := List.find?_some hfind
  exact ⟨label, List.mem_reverse.mp (List.mem_of_find?_eq_some hfind), by simpa using hkey⟩

/-- Where no two assignments share a key, each of them counts. -/
theorem find?_ofList_eq_some_iff {assignments : List (Label × α)}
    (hkeys : (assignments.map (·.1.key)).Nodup) {key : Json.Key} {value : α} :
    (ofList assignments).find? key = some value ↔
      ∃ label, (label, value) ∈ assignments ∧ label.key = key := by
  refine ⟨mem_of_find?_ofList, fun ⟨label, hmem, hkey⟩ => ?_⟩
  obtain ⟨other, hfind⟩ := Option.isSome_iff_exists.mp
    ((find?_isSome_iff _ _).mpr (mem_keys_ofList.mpr ⟨(label, value), hmem, hkey⟩))
  obtain ⟨otherLabel, hother, hotherKey⟩ := mem_of_find?_ofList hfind
  cases List.inj_on_of_nodup_map hkeys hother hmem (hotherKey.trans hkey.symm)
  exact hfind

/-- Where no two assignments share a key, their order does not count. -/
theorem find?_ofList_perm {assignments others : List (Label × α)}
    (hkeys : (assignments.map (·.1.key)).Nodup) (hperm : others.Perm assignments)
    (key : Json.Key) : (ofList others).find? key = (ofList assignments).find? key := by
  have hotherKeys := (hperm.map (·.1.key)).nodup_iff.mpr hkeys
  refine Option.ext fun value => ?_
  rw [find?_ofList_eq_some_iff hotherKeys, find?_ofList_eq_some_iff hkeys]
  exact exists_congr fun label => and_congr_left fun _ => hperm.mem_iff

theorem put_of_notMem {label : Label} {value : α} {entries : List (Label × α)}
    (hnew : label.key ∉ entries.map (·.1.key)) :
    put label value entries = entries ++ [(label, value)] := by
  induction entries with
  | nil => rfl
  | cons entry rest ih =>
    simp only [List.map_cons, List.mem_cons, not_or] at hnew
    rw [put, if_neg (Ne.symm hnew.1), ih hnew.2, List.cons_append]

/-- Assignments to distinct keys are the entries of their table, in order. -/
theorem entries_ofList {assignments : List (Label × α)}
    (hkeys : (assignments.map (·.1.key)).Nodup) : (ofList assignments).entries = assignments := by
  induction assignments using List.reverseRecOn with
  | nil => rfl
  | append_singleton rest assignment ih =>
    rw [List.map_append, List.map_singleton] at hkeys
    have hrest := ih hkeys.of_append_left
    have hnew : assignment.1.key ∉ (ofList rest).entries.map (·.1.key) := by
      rw [hrest]
      intro hmem
      exact (List.nodup_append.mp hkeys).2.2 _ hmem _ (List.mem_singleton_self _) rfl
    rw [ofList_concat, insert, put_of_notMem hnew, hrest]

end DartModels.Table
