import DartModels.Proofs.Resolution.Settling

namespace DartModels

open Catalog (labelOf labelOf_int_inj labelOf_text_inj)

/-- A call that enters something into a registry. -/
inductive Registration where
  /-- A catalog type and its target. -/
  | catalog (type : CatalogType) (target : DartType)
  /-- What a JSON schema gave an array element or a property. -/
  | derived (name : String) (target : DartType)
  /-- What a JSON schema gave a column. -/
  | column (name : String) (target : DartType)

namespace Registration

/-- A catalog type is entered under a whole number and a text. -/
def WellTyped : Registration → Prop
  | .catalog type _ => (∃ id, type.id = .int id) ∧ ∃ name, type.name = .text name
  | .derived .. | .column .. => True

/-- What a call enters under a name that schemas give. -/
def derivedUnder? : Registration → Option (Label × DartType)
  | .derived name target => some (labelOf (.text name), target)
  | .catalog .. | .column .. => none

/-- What a call enters under the name of a column. -/
def columnUnder? : Registration → Option (Label × DartType)
  | .column name target => some (labelOf (.text name), target)
  | .catalog .. | .derived .. => none

theorem derivedUnder?_eq_some {call : Registration} {label : Label} {target : DartType} :
    call.derivedUnder? = some (label, target) ↔
      ∃ name, call = .derived name target ∧ label = labelOf (.text name) := by
  cases call <;> simp [derivedUnder?, eq_comm, and_comm]

theorem columnUnder?_eq_some {call : Registration} {label : Label} {target : DartType} :
    call.columnUnder? = some (label, target) ↔
      ∃ name, call = .column name target ∧ label = labelOf (.text name) := by
  cases call <;> simp [columnUnder?, eq_comm, and_comm]

/-- Under a name that one kind of call enters, the last such call counts. -/
theorem find?_entered_iff {make : String → DartType → Registration}
    {entered? : Registration → Option (Label × DartType)}
    (hentered : ∀ {call label target}, entered? call = some (label, target) ↔
      ∃ name, call = make name target ∧ label = labelOf (.text name))
    {calls : List Registration} {name : String} {target : DartType} :
    (Table.ofList (calls.filterMap entered?)).find? (labelOf (.text name)).key = some target ↔
      ∃ before after, calls = before ++ make name target :: after ∧
        ∀ other, make name other ∉ after := by
  have hname {given : String} (hkey : (labelOf (.text given)).key = (labelOf (.text name)).key) :
      given = name := by
    simpa using (labelOf_text_inj ⟨given, rfl⟩ ⟨name, rfl⟩).mp hkey
  rw [Table.find?_ofList_filterMap]
  constructor
  · rintro ⟨before, call, after, label, hcalls, hcall, hkey, hafter⟩
    obtain ⟨given, rfl, rfl⟩ := hentered.mp hcall
    obtain rfl := hname hkey
    exact ⟨before, after, hcalls, fun other hother =>
      hafter _ hother _ (hentered.mpr ⟨given, rfl, rfl⟩) rfl⟩
  · rintro ⟨before, after, hcalls, hafter⟩
    refine ⟨before, _, after, _, hcalls, hentered.mpr ⟨name, rfl, rfl⟩, rfl, ?_⟩
    rintro later hlater ⟨label, other⟩ hlaterEntry hkey
    obtain ⟨given, rfl, rfl⟩ := hentered.mp hlaterEntry
    obtain rfl := hname hkey
    exact hafter other hlater

end Registration

namespace Registry

variable {registry : Registry}

/-- What a call leaves behind, and how it fails, if it does. An id that is there already is
    refused before anything is entered; a name is entered behind the id. -/
def perform (registry : Registry) : Registration → Registry × Option Failure
  | .catalog type target =>
    match registry.insertById type target with
    | .error failure => (registry, some failure)
    | .ok entered =>
      match entered.insertByName type target with
      | .error fault => (entered, some (.fault fault))
      | .ok named => (named, none)
  | .derived name target => (registry.insertDerived name target, none)
  | .column name target => (registry.insertColumn (labelOf (.text name)) target, none)

/-- Only an id that is there already makes a call fail. -/
theorem perform_catalog {type : CatalogType} (hid : ∃ id, type.id = .int id)
    (hname : ∃ name, type.name = .text name) (target : DartType) :
    registry.perform (.catalog type target) =
      if registry.byId.contains (labelOf type.id).key then
        (registry, some (.problem (.alreadyRegistered type.name)))
      else (registry.enter type target, none) := by
  obtain ⟨id, hid⟩ := hid
  obtain ⟨name, hname⟩ := hname
  have hlabelId : Catalog.label type.id = .ok (labelOf type.id) := by rw [hid]; rfl
  have hlabelName : Catalog.label type.name = .ok (labelOf type.name) := by rw [hname]; rfl
  cases hcontains : registry.byId.contains (labelOf type.id).key with
  | true =>
    have hbyId : registry.insertById type target =
        .error (.problem (.alreadyRegistered type.name)) := by
      simp only [insertById, hlabelId, Failure.ofFault, Except.mapError, ok_bind, hcontains]
      rfl
    simp [perform, hbyId]
  | false =>
    have hbyId : registry.insertById type target =
        .ok { registry with byId := registry.byId.insert (labelOf type.id) (type, target) } := by
      simp only [insertById, hlabelId, Failure.ofFault, Except.mapError, ok_bind, hcontains]
      rfl
    simp [perform, hbyId, insertByName, hlabelName, enter]

/-- What schemas give never touches a catalog type. -/
theorem perform_schema (registry : Registry) {call : Registration}
    (hcall : ∀ type target, call ≠ .catalog type target) :
    (registry.perform call).1.byId = registry.byId ∧
      (registry.perform call).1.byName = registry.byName := by
  cases call with
  | catalog type target => exact absurd rfl (hcall type target)
  | derived name target => exact ⟨rfl, rfl⟩
  | column name target => exact ⟨rfl, rfl⟩

/-- A catalog type never touches what schemas gave. -/
theorem perform_catalog_schema (registry : Registry) (type : CatalogType) (target : DartType) :
    (registry.perform (.catalog type target)).1.derived = registry.derived ∧
      (registry.perform (.catalog type target)).1.columns = registry.columns := by
  have hbyId (entered : Registry) (h : registry.insertById type target = .ok entered) :
      entered.derived = registry.derived ∧ entered.columns = registry.columns := by
    obtain ⟨id, -, h⟩ := bind_eq_ok_iff.mp h
    split at h
    · cases h
    · cases h
      exact ⟨rfl, rfl⟩
  have hbyName (entered named : Registry) (h : entered.insertByName type target = .ok named) :
      named.derived = entered.derived ∧ named.columns = entered.columns := by
    obtain ⟨name, -, h⟩ := bind_eq_ok_iff.mp h
    cases h
    exact ⟨rfl, rfl⟩
  simp only [perform]
  split
  · exact ⟨rfl, rfl⟩
  · next entered hentered =>
    obtain ⟨hderived, hcolumns⟩ := hbyId entered hentered
    split
    · exact ⟨hderived, hcolumns⟩
    · next named hnamed =>
      obtain ⟨hderived', hcolumns'⟩ := hbyName entered named hnamed
      exact ⟨hderived'.trans hderived, hcolumns'.trans hcolumns⟩

/-- All that a registry tells about an id or a name is about one entry, if there is one. -/
structure Answers (registry : Registry) (key : Json) (found : Option (CatalogType × DartType)) :
    Prop where
  entry : registry.entry? key = .ok found
  type : registry.type? key = .ok (found.map Prod.fst)
  target : registry.find? key = .ok (found.map Prod.snd)
  holds : registry.holds key = .ok found.isSome

theorem answers_int (registry : Registry) (id : Int) :
    registry.Answers (.int id) (registry.byId.find? (labelOf (.int id)).key) := by
  refine ⟨rfl, rfl, rfl, congrArg Except.ok ?_⟩
  rw [Bool.eq_iff_iff, Table.contains_iff, Table.find?_isSome_iff]
  rfl

theorem answers_text (registry : Registry) (name : String) :
    registry.Answers (.text name) (registry.byName.find? (labelOf (.text name)).key) := by
  refine ⟨rfl, rfl, rfl, congrArg Except.ok ?_⟩
  rw [Bool.eq_iff_iff, Table.contains_iff, Table.find?_isSome_iff]
  rfl

/-- Answers depend on the catalog types only. -/
theorem Answers.congr {other : Registry} {key : Json} {found : Option (CatalogType × DartType)}
    (h : registry.Answers key found) (hbyId : other.byId = registry.byId)
    (hbyName : other.byName = registry.byName) : other.Answers key found := by
  have hentry : other.entry? key = registry.entry? key := by
    unfold Registry.entry?
    rw [hbyId, hbyName]
  refine ⟨hentry.trans h.entry, ?_, ?_, ?_⟩
  · rw [type?, hentry]
    exact h.type
  · rw [find?, hentry]
    exact h.target
  · rw [Registry.holds, hbyId, hbyName]
    exact h.holds

end Registry

/-- A registry together with the catalog types that were entered without a failure, in
    order. -/
structure Session where
  registry : Registry := {}
  accepted : List (CatalogType × DartType) := []

namespace Session

/-- The session after one more call. -/
def step (session : Session) (call : Registration) : Session :=
  let (registry, failure) := session.registry.perform call
  { registry
    accepted :=
      match call, failure with
      | .catalog type target, none => session.accepted ++ [(type, target)]
      | _, _ => session.accepted }

/-- The session of some calls on a new registry. -/
def run (calls : List Registration) : Session :=
  calls.foldl step {}

theorem run_concat (calls : List Registration) (call : Registration) :
    run (calls ++ [call]) = (run calls).step call := by
  simp [run]

/-- The registry holds exactly what its calls entered: each catalog type that was accepted under
    its own id and under its name, and what schemas gave under names of their own. -/
structure Follows (session : Session) (calls : List Registration) : Prop where
  ids : ∀ entry ∈ session.accepted, ∃ id, entry.1.id = .int id
  names : ∀ entry ∈ session.accepted, ∃ name, entry.1.name = .text name
  distinct : (session.accepted.map (·.1.id)).Nodup
  byId : session.registry.byId =
    .ofList (session.accepted.map fun entry => (labelOf entry.1.id, entry))
  byName : session.registry.byName =
    .ofList (session.accepted.map fun entry => (labelOf entry.1.name, entry))
  derived : session.registry.derived = .ofList (calls.filterMap Registration.derivedUnder?)
  columns : session.registry.columns = .ofList (calls.filterMap Registration.columnUnder?)

namespace Follows

variable {session : Session} {calls : List Registration}

section

variable (h : session.Follows calls)
include h

/-- The key of an id tells which of the accepted types it is of. -/
theorem key_eq_iff {entry : CatalogType × DartType} (hentry : entry ∈ session.accepted)
    {id : Json} (hid : ∃ number, id = .int number) :
    (labelOf entry.1.id).key = (labelOf id).key ↔ entry.1.id = id :=
  labelOf_int_inj (h.ids entry hentry) hid

theorem contains_iff {id : Json} (hid : ∃ number, id = .int number) :
    session.registry.byId.contains (labelOf id).key = true ↔
      ∃ entry ∈ session.accepted, entry.1.id = id := by
  rw [Table.contains_iff, h.byId, Table.mem_keys_ofList]
  simp only [List.mem_map, exists_exists_and_eq_and]
  exact exists_congr fun entry => and_congr_right fun hentry => h.key_eq_iff hentry hid

theorem nodup_keys :
    ((session.accepted.map fun entry => (labelOf entry.1.id, entry)).map (·.1.key)).Nodup := by
  rw [List.map_map]
  refine List.Nodup.of_map (f := id) ?_
  rw [List.map_id]
  have hmap := h.distinct.map_on (f := fun id => (labelOf id).key) fun x hx y hy heq => by
    obtain ⟨entry, hentry, rfl⟩ := List.mem_map.mp hx
    obtain ⟨other, hother, rfl⟩ := List.mem_map.mp hy
    exact (h.key_eq_iff hentry (h.ids other hother)).mp heq
  rwa [List.map_map] at hmap

/-- A call is refused if and only if its id was accepted before. -/
theorem perform_catalog {type : CatalogType} (hid : ∃ id, type.id = .int id)
    (hname : ∃ name, type.name = .text name) (target : DartType) :
    (∃ entry ∈ session.accepted, entry.1.id = type.id) ∧
        session.registry.perform (.catalog type target) =
          (session.registry, some (.problem (.alreadyRegistered type.name))) ∨
      type.id ∉ session.accepted.map (·.1.id) ∧
        session.registry.perform (.catalog type target) =
          (session.registry.enter type target, none) := by
  rw [Registry.perform_catalog hid hname]
  by_cases hused : session.registry.byId.contains (labelOf type.id).key = true
  · rw [if_pos hused]
    exact .inl ⟨(h.contains_iff hid).mp hused, rfl⟩
  · rw [if_neg hused]
    refine .inr ⟨fun hmem => hused ((h.contains_iff hid).mpr ?_), rfl⟩
    simpa using hmem

end

section

variable (h : session.Follows calls)
include h

/-- An id finds the one type that was accepted under it. -/
theorem byId_find?_iff (id : Int) (entry : CatalogType × DartType) :
    session.registry.byId.find? (labelOf (.int id)).key = some entry ↔
      entry ∈ session.accepted ∧ entry.1.id = .int id := by
  rw [h.byId, Table.find?_ofList_eq_some_iff h.nodup_keys]
  simp only [List.mem_map, Prod.mk.injEq]
  constructor
  · rintro ⟨label, ⟨accepted, hmem, rfl, rfl⟩, hkey⟩
    exact ⟨hmem, (h.key_eq_iff hmem ⟨id, rfl⟩).mp hkey⟩
  · rintro ⟨hmem, hid⟩
    exact ⟨_, ⟨entry, hmem, rfl, rfl⟩, congrArg (labelOf · |>.key) hid⟩

/-- A name finds the last type that was accepted under it. -/
theorem byName_find?_iff (name : String) (entry : CatalogType × DartType) :
    session.registry.byName.find? (labelOf (.text name)).key = some entry ↔
      ∃ before after, session.accepted = before ++ entry :: after ∧ entry.1.name = .text name ∧
        ∀ later ∈ after, later.1.name ≠ .text name := by
  have hname {accepted : CatalogType × DartType} (hmem : accepted ∈ session.accepted) :
      (labelOf accepted.1.name).key = (labelOf (.text name)).key ↔ accepted.1.name = .text name :=
    labelOf_text_inj (h.names accepted hmem) ⟨name, rfl⟩
  rw [h.byName, ← List.filterMap_eq_map, Table.find?_ofList_filterMap]
  constructor
  · rintro ⟨before, _, after, _, haccepted, heq, hkey, hafter⟩
    cases heq
    refine ⟨before, after, haccepted, (hname (by simp [haccepted])).mp hkey, ?_⟩
    exact fun later hlater hsame => hafter later hlater _ rfl
      ((hname (by simp [haccepted, hlater])).mpr hsame)
  · rintro ⟨before, after, haccepted, hsame, hafter⟩
    refine ⟨before, entry, after, _, haccepted, rfl, (hname (by simp [haccepted])).mpr hsame, ?_⟩
    rintro later hlater _ heq hkey
    cases heq
    exact hafter later hlater ((hname (by simp [haccepted, hlater])).mp hkey)

/-- A name that a schema gave finds the last type that was entered under it. -/
theorem derived?_iff (name : String) (target : DartType) :
    session.registry.derived? name = some target ↔
      ∃ before after, calls = before ++ .derived name target :: after ∧
        ∀ other, .derived name other ∉ after := by
  rw [← Registration.find?_entered_iff Registration.derivedUnder?_eq_some, ← h.derived]
  rfl

/-- The name of a column finds the last type that was entered under it. -/
theorem columns_find?_iff (name : String) (target : DartType) :
    session.registry.columns.find? (labelOf (.text name)).key = some target ↔
      ∃ before after, calls = before ++ .column name target :: after ∧
        ∀ other, .column name other ∉ after := by
  rw [← Registration.find?_entered_iff Registration.columnUnder?_eq_some, ← h.columns]

end

/-- One more call keeps the registry and the record of it together. -/
theorem step (h : session.Follows calls) {call : Registration} (hcall : call.WellTyped) :
    (session.step call).Follows (calls ++ [call]) := by
  cases call with
  | derived name target =>
    exact
      { ids := h.ids, names := h.names, distinct := h.distinct, byId := h.byId, byName := h.byName
        derived := by
          rw [List.filterMap_append]
          refine Eq.trans ?_ (Table.ofList_concat _ (labelOf (.text name), target)).symm
          exact congrArg (Table.insert · _ target) h.derived
        columns := by
          rw [List.filterMap_append]
          exact h.columns.trans (congrArg Table.ofList (List.append_nil _).symm) }
  | column name target =>
    exact
      { ids := h.ids, names := h.names, distinct := h.distinct, byId := h.byId, byName := h.byName
        derived := by
          rw [List.filterMap_append]
          exact h.derived.trans (congrArg Table.ofList (List.append_nil _).symm)
        columns := by
          rw [List.filterMap_append]
          refine Eq.trans ?_ (Table.ofList_concat _ (labelOf (.text name), target)).symm
          exact congrArg (Table.insert · _ target) h.columns }
  | catalog type target =>
    obtain ⟨hid, hname⟩ := hcall
    have hschema :
        (calls ++ [Registration.catalog type target]).filterMap Registration.derivedUnder? =
            calls.filterMap Registration.derivedUnder? ∧
          (calls ++ [Registration.catalog type target]).filterMap Registration.columnUnder? =
            calls.filterMap Registration.columnUnder? := by
      simp [Registration.derivedUnder?, Registration.columnUnder?]
    obtain ⟨-, hperform⟩ | ⟨hnew, hperform⟩ := h.perform_catalog hid hname target
    · have hstep : session.step (.catalog type target) = session := by
        simp [Session.step, hperform]
      rw [hstep]
      exact { h with
        derived := h.derived.trans (congrArg _ hschema.1.symm)
        columns := h.columns.trans (congrArg _ hschema.2.symm) }
    · have hstep : session.step (.catalog type target) =
          ⟨session.registry.enter type target, session.accepted ++ [(type, target)]⟩ := by
        simp [Session.step, hperform]
      rw [hstep]
      exact
        { ids := List.forall_mem_append.mpr ⟨h.ids, by simpa using hid⟩
          names := List.forall_mem_append.mpr ⟨h.names, by simpa using hname⟩
          distinct := by
            rw [List.map_append]
            simpa using List.Nodup.concat hnew h.distinct
          byId := by
            rw [List.map_append, List.map_singleton, Table.ofList_concat, ← h.byId]
            rfl
          byName := by
            rw [List.map_append, List.map_singleton, Table.ofList_concat, ← h.byName]
            rfl
          derived := h.derived.trans (congrArg _ hschema.1.symm)
          columns := h.columns.trans (congrArg _ hschema.2.symm) }

end Follows

theorem run_follows {calls : List Registration} (hcalls : ∀ call ∈ calls, call.WellTyped) :
    (run calls).Follows calls := by
  induction calls using List.reverseRecOn with
  | nil => exact ⟨by simp [run], by simp [run], List.nodup_nil, rfl, rfl, rfl, rfl⟩
  | append_singleton calls call ih =>
    rw [run_concat]
    exact (ih fun call hcall => hcalls call (List.mem_append_left _ hcall)).step
      (hcalls call (by simp))

/-- A call on what earlier calls left is refused if and only if its id was accepted before, and a
    refused call leaves the registry as it is. -/
theorem perform_run_catalog {before : List Registration}
    (hbefore : ∀ call ∈ before, call.WellTyped) {type : CatalogType} {target : DartType}
    (hcall : (Registration.catalog type target).WellTyped) :
    (((run before).registry.perform (.catalog type target)).2 =
        some (.problem (.alreadyRegistered type.name)) ↔
      ∃ entry ∈ (run before).accepted, entry.1.id = type.id) ∧
    (((run before).registry.perform (.catalog type target)).2 = none ↔
      ∀ entry ∈ (run before).accepted, entry.1.id ≠ type.id) ∧
    (((run before).registry.perform (.catalog type target)).2 ≠ none →
      ((run before).registry.perform (.catalog type target)).1 = (run before).registry) := by
  obtain ⟨⟨entry, hmem, hid⟩, hperform⟩ | ⟨hnew, hperform⟩ :=
    (run_follows hbefore).perform_catalog hcall.1 hcall.2 target
  · rw [hperform]
    refine ⟨iff_of_true rfl ⟨entry, hmem, hid⟩, iff_of_false (by simp) ?_, fun _ => rfl⟩
    exact fun hnone => hnone entry hmem hid
  · have hnone : ∀ entry ∈ (run before).accepted, entry.1.id ≠ type.id := fun entry hmem hid =>
      hnew (hid ▸ List.mem_map_of_mem hmem)
    rw [hperform]
    refine ⟨iff_of_false (by simp) ?_, iff_of_true rfl hnone, fun h => absurd rfl h⟩
    exact fun ⟨entry, hmem, hid⟩ => hnone entry hmem hid

/-- What is found in a registry after some calls on a new one. A catalog type is refused if and
    only if its id was accepted before, and then nothing changes. An id finds the one type that was
    accepted under it, a name the last one. The accepted types are listed in order. What schemas
    gave is found by the last call under its name, and neither kind of call ever changes what the
    other kind finds. -/
theorem run_lookups {calls : List Registration} (hcalls : ∀ call ∈ calls, call.WellTyped) :
    (∀ before type target after, calls = before ++ .catalog type target :: after →
      (((run before).registry.perform (.catalog type target)).2 =
          some (.problem (.alreadyRegistered type.name)) ↔
        ∃ entry ∈ (run before).accepted, entry.1.id = type.id) ∧
      (Problem.alreadyRegistered type.name).NamesType "SCHEMA_ERROR"
        ("Type " ++ type.name.display ++ " is already registered") type.name ∧
      (((run before).registry.perform (.catalog type target)).2 = none ↔
        ∀ entry ∈ (run before).accepted, entry.1.id ≠ type.id) ∧
      (((run before).registry.perform (.catalog type target)).2 ≠ none →
        ((run before).registry.perform (.catalog type target)).1 = (run before).registry)) ∧
    (((run calls).accepted.map (·.1.id)).Nodup ∧
      ∀ id, ∃ found, (run calls).registry.Answers (.int id) found ∧ ∀ entry,
        found = some entry ↔ entry ∈ (run calls).accepted ∧ entry.1.id = .int id) ∧
    (∀ name, ∃ found, (run calls).registry.Answers (.text name) found ∧ ∀ entry,
      found = some entry ↔ ∃ before after, (run calls).accepted = before ++ entry :: after ∧
        entry.1.name = .text name ∧ ∀ later ∈ after, later.1.name ≠ .text name) ∧
    ((run calls).registry.catalogEntries = (run calls).accepted ∧
      (run calls).registry.size = (run calls).accepted.length) ∧
    (∀ name target, (run calls).registry.derived? name = some target ↔
      ∃ before after, calls = before ++ .derived name target :: after ∧
        ∀ other, .derived name other ∉ after) ∧
    (∀ name, ∃ found, (run calls).registry.column? (.text name) = .ok found ∧ ∀ target,
      found = some target ↔ ∃ before after, calls = before ++ .column name target :: after ∧
        ∀ other, .column name other ∉ after) ∧
    ∀ registry : Registry,
      (∀ call, (∀ type target, call ≠ .catalog type target) →
        (∀ key found, registry.Answers key found → (registry.perform call).1.Answers key found) ∧
        (registry.perform call).1.catalogEntries = registry.catalogEntries ∧
        (registry.perform call).1.size = registry.size) ∧
      ∀ type target name,
        (registry.perform (.catalog type target)).1.derived? name = registry.derived? name ∧
        (registry.perform (.catalog type target)).1.column? (.text name) =
          registry.column? (.text name) := by
  have h := run_follows hcalls
  have hentries : (run calls).registry.byId.entries =
      (run calls).accepted.map fun entry => (labelOf entry.1.id, entry) := by
    rw [h.byId, Table.entries_ofList h.nodup_keys]
  refine ⟨?_, ⟨h.distinct, fun id => ?_⟩, fun name => ?_, ⟨?_, ?_⟩, h.derived?_iff, fun name => ?_,
    fun registry => ⟨fun call hcall => ?_, fun type target name => ?_⟩⟩
  · rintro before type target after rfl
    obtain ⟨hrefused, hrest⟩ := perform_run_catalog
      (fun call hcall => hcalls call (List.mem_append_left _ hcall))
      (hcalls (.catalog type target) (by simp))
    exact ⟨hrefused, Problem.namesType_alreadyRegistered type.name, hrest⟩
  · exact ⟨_, Registry.answers_int _ id, h.byId_find?_iff id⟩
  · exact ⟨_, Registry.answers_text _ name, h.byName_find?_iff name⟩
  · simp [Registry.catalogEntries, Table.values, hentries, Function.comp_def]
  · simp [Registry.size, Table.size, hentries]
  · exact ⟨_, rfl, h.columns_find?_iff name⟩
  · obtain ⟨hbyId, hbyName⟩ := registry.perform_schema hcall
    refine ⟨fun key found hfound => ?_, ?_, ?_⟩
    · exact hfound.congr hbyId hbyName
    · rw [Registry.catalogEntries, hbyId, Registry.catalogEntries]
    · rw [Registry.size, hbyId, Registry.size]
  · obtain ⟨hderived, hcolumns⟩ := registry.perform_catalog_schema type target
    rw [Registry.derived?, hderived, Registry.column?, hcolumns]
    exact ⟨rfl, rfl⟩

def mood : CatalogType × DartType :=
  ({ id := .int 1, name := .text "mood", enums := [.text "fine"] },
    .enum (.text "mood") [.text "fine"] none)

def laterMood : CatalogType × DartType :=
  ({ id := .int 2, name := .text "mood" }, .scalar "String")

def refusedState : CatalogType := { id := .int 1, name := .text "state" }

/-- One name for two catalog types, for what schemas gave and for a column, and an id that is
    used twice. -/
def moods : List Registration :=
  [.catalog mood.1 mood.2, .derived "mood" .dynamic, .column "mood" (.nullable .dynamic),
    .catalog refusedState .dynamic, .catalog laterMood.1 laterMood.2]

theorem run_lookups_moods :
    (∀ call ∈ moods, call.WellTyped) ∧ (run moods).accepted = [mood, laterMood] ∧
      ((run (moods.take 3)).registry.perform (.catalog refusedState .dynamic)).2 =
        some (.problem (.alreadyRegistered (.text "state"))) ∧
      (run moods).registry.find? (.int 1) = .ok (some mood.2) ∧
      (run moods).registry.holds (.text "state") = .ok false ∧
      (run moods).registry.find? (.text "mood") = .ok (some laterMood.2) ∧
      (run moods).registry.size = 2 ∧
      (run moods).registry.derived? "mood" = some .dynamic ∧
      (run moods).registry.column? (.text "mood") = .ok (some (.nullable .dynamic)) := by
  have htyped : ∀ call ∈ moods, call.WellTyped := by
    simp [moods, Registration.WellTyped, mood, laterMood, refusedState]
  have haccepted : (run moods).accepted = [mood, laterMood] := rfl
  have hfirst : (run (moods.take 3)).accepted = [mood] := rfl
  obtain ⟨hperform, ⟨-, hids⟩, hnames, ⟨-, hsize⟩, hderived, hcolumns, -⟩ := run_lookups htyped
  refine ⟨htyped, haccepted, ?_, ?_, ?_, ?_, ?_, ?_, ?_⟩
  · refine (hperform (moods.take 3) _ _ [_] rfl).1.mpr ?_
    exact ⟨mood, by simp [hfirst], rfl⟩
  · obtain ⟨found, hanswers, hfound⟩ := hids 1
    rw [hanswers.target, (hfound mood).mpr ⟨by simp [haccepted], rfl⟩]
    rfl
  · obtain ⟨found, hanswers, hfound⟩ := hnames "state"
    have hnone : found = none := by
      refine Option.eq_none_iff_forall_ne_some.mpr fun entry hentry => ?_
      obtain ⟨before, after, heq, hname, -⟩ := (hfound entry).mp hentry
      have hmem : entry ∈ [mood, laterMood] := by simp [← haccepted, heq]
      have hother : ∀ entry ∈ [mood, laterMood], entry.1.name ≠ .text "state" := by
        simp [mood, laterMood]
      exact hother entry hmem hname
    rw [hanswers.holds, hnone]
    rfl
  · obtain ⟨found, hanswers, hfound⟩ := hnames "mood"
    rw [hanswers.target, (hfound laterMood).mpr ⟨[mood], [], haccepted, rfl, by simp⟩]
    rfl
  · rw [hsize, haccepted]
    rfl
  · exact (hderived "mood" .dynamic).mpr ⟨moods.take 1, moods.drop 2, rfl, by simp [moods]⟩
  · obtain ⟨found, hcolumn, hfound⟩ := hcolumns "mood"
    rw [hcolumn, (hfound (.nullable .dynamic)).mpr ⟨moods.take 2, moods.drop 3, rfl, by
      simp [moods]⟩]

end Session
end DartModels
