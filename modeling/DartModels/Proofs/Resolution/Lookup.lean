import DartModels.Proofs.Catalog.Placement
import DartModels.Proofs.Resolution.Declaration

namespace DartModels

open Catalog (labelOf labelOf_text_inj tableBy IsArrayOf IsLastOfName isLastOfName_concat_iff)

namespace Generator

variable {generator : Generator} {snapshot : Snapshot} {resolution : Resolution}

section

variable (run : Run generator snapshot resolution) (htyped : snapshot.WellTyped)
  (hids : (snapshot.types.map (·.id)).Nodup) (hnames : (snapshot.types.map (·.name)).Nodup)
include run htyped hids hnames

/-- A type that is no array stands before the array type of its name, whatever else refers to
    the array. -/
theorem Run.element_before_array {array element : CatalogType}
    (harray : array ∈ resolution.requiredTypes) (helement : element ∈ snapshot.types)
    (hmark : array.isArray) (hplain : element.isArray = false)
    (harrayOf : IsArrayOf array.name element.name) :
    [element, array].Sublist resolution.requiredTypes := by
  have hother : element.id ≠ array.id := by
    intro heq
    cases List.inj_on_of_nodup_map hids helement (run.mem_types htyped harray) heq
    rw [hplain] at hmark
    cases hmark
  have hrequired := (Catalog.mem_requiredTypes_iff htyped.catalog hids hnames htyped.formats
    run.requires).mp harray
  rw [Catalog.pair_sublist_requiredTypes_iff htyped.catalog hids hnames htyped.formats run.requires
    hrequired helement hother (.inr harrayOf)]
  rintro ⟨htrails, _⟩
  simp [hplain] at htrails

/-- Where names are distinct, the name of a type finds what its id finds. -/
theorem Run.find?_name_eq {type : CatalogType} (htype : type ∈ snapshot.types) {name : String}
    (hname : type.name = .text name) :
    resolution.registry.find? (.text name) = .ok (resolution.registry.withId? type.id) := by
  rw [Registry.find?_text, run.findNamed?_eq, run.withId?_eq,
    run.settled.findNamed?_eq ⟨htyped.catalog, hids, hnames⟩ (fun _ => run.mem_types htyped)
      htype hname]

end

/-- An array type whose elements are no arrays is a list of what the type of its elements is,
    in whatever order the columns are given, whether or not an attribute holds the array, and
    whatever values, attributes or built-in name the array itself has. -/
theorem find?_array (generator : Generator) (htyped : snapshot.WellTyped)
    (hids : (snapshot.types.map (·.id)).Nodup) (hnames : (snapshot.types.map (·.name)).Nodup)
    (hresolve : generator.resolve snapshot = .ok resolution) {array element : CatalogType}
    (harray : array ∈ resolution.requiredTypes) (helement : element ∈ snapshot.types)
    {name : String} (hplain : Catalog.isArrayName name = false)
    (hname : element.name = .text name) (harrayName : array.name = .text ("_" ++ name)) :
    ∃ target, resolution.registry.find? (.text name) = .ok (some target) ∧
      resolution.registry.find? (.text ("_" ++ name)) = .ok (some (.list target)) := by
  obtain ⟨run⟩ := (resolve_ends htyped generator).of_eq_ok hresolve
  have harrayMem := run.mem_types htyped harray
  have hmark : array.isArray :=
    (CatalogType.isArray_eq harrayName).trans (Catalog.isArrayName_iff.mpr ⟨name, rfl⟩)
  have hpair := run.element_before_array htyped hids hnames harray helement hmark
    ((CatalogType.isArray_eq hname).trans hplain) ⟨name, hname, harrayName⟩
  obtain ⟨before, after, hrequired⟩ := List.append_of_mem harray
  have hnodup := (run.requiredTypes_nodup htyped).of_map
  rw [hrequired] at hpair hnodup
  have hbefore : element ∈ before := (Catalog.pair_sublist_iff_mem hnodup).mp hpair
  obtain ⟨step⟩ := run.exists_step hrequired
  -- The element is known when its array is settled, and it is then what it is in the end.
  obtain ⟨target, hknown, hkept⟩ := step.withId?_eq hbefore
  have hfound : step.registry.findNamed? name = some target :=
    (step.settled.findNamed?_eq ⟨htyped.catalog, hids, hnames⟩
      (fun _ => run.mem_types_of_before htyped hrequired) helement hname).trans hknown
  have hlist : step.target = .list target := by
    have hmaps := Mapping.maps_of_target (htyped.types array harrayMem) step.maps
    have hbase : array.base = name := by
      rw [CatalogType.base_eq harrayName, Catalog.baseName_mark_append]
    exact hmaps.list_of_element hmark (hbase ▸ hfound)
  have hentry : resolution.registry.withId? array.id = some (.list target) := by
    rw [Registry.withId?, step.entry, hlist]
    rfl
  exact ⟨target, (run.find?_name_eq htyped hids hnames helement hname).trans (congrArg _ hkept),
    (run.find?_name_eq htyped hids hnames harrayMem harrayName).trans (congrArg _ hentry)⟩

def mood : CatalogType := { id := .int 2, name := .text "mood", enums := [.text "fine"] }

/-- A type whose attribute holds an array that has values of its own. -/
def diary : CatalogType :=
  { id := .int 3, name := .text "diary", attributes := [⟨.text "moods", .int 1⟩] }

def allDiaries : Column := { tableId := .int 1, name := .text "diary", format := .text "diary" }

def diaries : Snapshot :=
  { schemas := []
    tables := []
    views := []
    columns := [allDiaries]
    types := [diary, moodArray, mood] }

/-- The array of moods is a list of moods, though it would be an enum by itself. -/
theorem find?_moodArray :
    diaries.WellTyped ∧ ∃ resolution, ({} : Generator).resolve diaries = .ok resolution ∧
      moodArray ∈ resolution.requiredTypes ∧
      resolution.registry.find? (.text "_mood") =
        .ok (some (.list (.enum (.text "mood") [.text "fine"] none))) := by
  have hmood : mood.WellTyped := by constructor <;> simp [mood]
  have harray : moodArray.WellTyped := by constructor <;> simp [moodArray]
  have hdiary : diary.WellTyped := by constructor <;> simp [diary]
  have hcolumn : allDiaries.WellTyped := ⟨⟨1, rfl⟩, ⟨_, rfl⟩, ⟨_, rfl⟩, .inl rfl⟩
  have htyped : diaries.WellTyped := by
    constructor <;> simp [diaries, hmood, harray, hdiary, hcolumn]
  obtain ⟨resolution, hresolve, hrequired, hfind⟩ : ∃ resolution,
      ({} : Generator).resolve diaries = .ok resolution ∧
        resolution.requiredTypes = [mood, moodArray, diary] ∧
        resolution.registry.find? (.text "mood") =
          .ok (some (.enum (.text "mood") [.text "fine"] none)) := ⟨_, rfl, rfl, rfl⟩
  have hids : (diaries.types.map (·.id)).Nodup := by simp [diaries, diary, moodArray, mood]
  have hnames : (diaries.types.map (·.name)).Nodup := by simp [diaries, diary, moodArray, mood]
  have hmem : moodArray ∈ resolution.requiredTypes := by simp [hrequired]
  obtain ⟨target, helement, hlist⟩ := find?_array {} htyped hids hnames hresolve hmem
    (by simp [diaries] : mood ∈ diaries.types) (by decide : Catalog.isArrayName "mood" = false)
    rfl rfl
  cases hfind.symm.trans helement
  exact ⟨htyped, resolution, hresolve, hmem, hlist⟩

/-- A name finds what is registered under the id of the last type of that name. -/
theorem Settled.findNamed?_of_isLastOfName {locales : List String} {done : List CatalogType}
    {notes : List Diagnostic} {registry : Registry} {declarables : List DartType}
    (h : Settled locales done notes registry declarables) {type : CatalogType}
    (hlast : IsLastOfName done type) {name : String} (hname : type.name = .text name) :
    registry.findNamed? name = registry.withId? type.id := by
  induction h with
  | nil => simpa using hlast.mem
  | @concat _ _ _ _ last _ target hdone hlastTyped hnew _ ih =>
    rw [Registry.findNamed?, Registry.byName_find?_enter, Registry.withId?]
    rcases isLastOfName_concat_iff.mp hlast with rfl | ⟨hother, hlast⟩
    · rw [Registry.byId_find?_enter, if_pos rfl, if_pos (by rw [hname]; rfl)]
    · obtain ⟨target, hentry⟩ := hdone.registered hlast.mem
      have hkey : (labelOf last.name).key ≠ .text name :=
        (labelOf_text_inj hlastTyped.name ⟨name, rfl⟩).not.mpr (hname ▸ hother)
      rw [if_neg hkey, hdone.byId_find?_enter_of_new hlastTyped.id hnew hentry, ← hentry]
      exact ih hlast

section

variable (run : Run generator snapshot resolution) (htyped : snapshot.WellTyped)
include run htyped

theorem Run.find?_id_eq {type : CatalogType} (hmem : type ∈ resolution.requiredTypes) :
    resolution.registry.find? type.id = .ok (resolution.registry.withId? type.id) := by
  obtain ⟨id, hid⟩ := (htyped.types type (run.mem_types htyped hmem)).id
  rw [hid]
  exact Registry.find?_int id

/-- A name finds what was registered for the last required type of that name. -/
theorem Run.exists_last_of_name {type : CatalogType} (hmem : type ∈ resolution.requiredTypes)
    {name : String} (hname : type.name = .text name) :
    ∃ last target, IsLastOfName resolution.requiredTypes last ∧ last.name = type.name ∧
      resolution.registry.find? last.id = .ok (some target) ∧
      resolution.registry.findNamed? name = some target := by
  obtain ⟨last, hlast, hsame⟩ := Catalog.exists_isLastOfName hmem
  have hfound := run.settled.findNamed?_of_isLastOfName hlast (hsame.trans hname)
  obtain ⟨target, hentry⟩ := run.settled.registered hlast.mem
  have htarget : run.catalog.withId? last.id = some target := by rw [Registry.withId?, hentry]; rfl
  refine ⟨last, target, hlast, hsame, ?_, ?_⟩
  · rw [run.find?_id_eq htyped hlast.mem, run.withId?_eq, htarget]
  · rw [run.findNamed?_eq, hfound, htarget]

end

/-- An id finds what its type was mapped to when it was settled. A name finds what the last
    required type of that name was mapped to. So a column that no schema types has the type of
    the last required type that shares its name with the one that the catalog has for the format
    of the column. -/
theorem find?_last_of_name (generator : Generator) (htyped : snapshot.WellTyped)
    (hids : (snapshot.types.map (·.id)).Nodup)
    (hresolve : generator.resolve snapshot = .ok resolution) :
    (∀ before type after, resolution.requiredTypes = before ++ type :: after →
      ∃ notes registry declarables found target,
        before.foldlM generator.settleType ({}, []) = ⟨notes, .ok (registry, declarables)⟩ ∧
        Mapping.target generator.locales registry type = ⟨found, .ok target⟩ ∧
        resolution.registry.find? type.id = .ok (some target)) ∧
    (∀ type ∈ resolution.requiredTypes, ∃ last target,
      IsLastOfName resolution.requiredTypes last ∧ last.name = type.name ∧
        resolution.registry.find? last.id = .ok (some target) ∧
        resolution.registry.find? type.name = .ok (some target)) ∧
    ∀ column ∈ snapshot.columns,
      (column.holdsJson → resolution.registry.column? column.name = .ok none) →
      ∀ byName, tableBy (·.name) snapshot.types = .ok byName →
      ∀ type, byName.find? (labelOf column.format).key = some type →
        ∃ last target, IsLastOfName resolution.requiredTypes last ∧ last.name = type.name ∧
          resolution.registry.find? last.id = .ok (some target) ∧
          column.baseType resolution.registry = .ok target := by
  obtain ⟨run⟩ := (resolve_ends htyped generator).of_eq_ok hresolve
  refine ⟨fun before type after hrequired => ?_, fun type hmem => ?_, ?_⟩
  · obtain ⟨step⟩ := run.exists_step hrequired
    refine ⟨step.earlier, step.registry, step.declared, step.found, step.target,
      step.settled.foldlM_eq, step.maps, ?_⟩
    rw [run.find?_id_eq htyped (by simp [hrequired]), Registry.withId?, step.entry]
    rfl
  · obtain ⟨name, hname⟩ := (htyped.types type (run.mem_types htyped hmem)).name
    obtain ⟨last, target, hlast, hsame, hid, hfound⟩ := run.exists_last_of_name htyped hmem hname
    refine ⟨last, target, hlast, hsame, hid, ?_⟩
    rw [hname, Registry.find?_text, hfound]
  · intro column hcolumn hplain byName hbyName type hfind
    have hformat := Catalog.format_eq_text htyped.formats column hcolumn
    rw [hformat] at hfind
    have hmem := Catalog.mem_requiredTypes_of_named htyped.catalog hids htyped.formats run.requires
      hbyName hcolumn hfind
    have hname : type.name = .text column.format.spelling := by
      have hkey := (Catalog.mem_of_find?_tableBy hbyName hfind).2
      obtain ⟨name, hname⟩ := (htyped.types type (run.mem_types htyped hmem)).name
      rw [hname] at hkey ⊢
      simpa [Json.key?, labelOf] using hkey
    obtain ⟨last, target, hlast, hsame, hid, hfound⟩ := run.exists_last_of_name htyped hmem hname
    refine ⟨last, target, hlast, hsame, hid, ?_⟩
    rw [Column.baseType_eq_of_plain (htyped.columns column hcolumn) hplain, hfound]
    rfl

def openState : CatalogType := { id := .int 2, name := .text "state", enums := [.text "open"] }

def otherState : CatalogType := { id := .int 1, name := .text "state" }

def ticket : CatalogType :=
  { id := .int 3, name := .text "ticket", attributes := [⟨.text "state", .int 1⟩] }

def allStates : Column := { tableId := .int 1, name := .text "state", format := .text "state" }

/-- Two types of one name, the second of which the format of a column names. -/
def states : Snapshot :=
  { schemas := []
    tables := []
    views := []
    columns := [allStates, { allStates with format := .text "ticket" }]
    types := [otherState, openState, ticket] }

/-- A type that shares its name hides the one that the format of a column names. -/
theorem openState_hidden :
    states.WellTyped ∧ (states.types.map (·.id)).Nodup ∧ ∃ resolution byName last,
      ({} : Generator).resolve states = .ok resolution ∧
      tableBy (·.name) states.types = .ok byName ∧
      byName.find? (labelOf allStates.format).key = some openState ∧
      resolution.registry.find? openState.id =
        .ok (some (.enum (.text "state") [.text "open"] none)) ∧
      IsLastOfName resolution.requiredTypes last ∧ last.name = openState.name ∧
      resolution.registry.find? last.id = .ok (some .dynamic) ∧
      allStates.baseType resolution.registry = .ok .dynamic := by
  have hopen : openState.WellTyped := by constructor <;> simp [openState]
  have hother : otherState.WellTyped := by constructor <;> simp [otherState]
  have hticket : ticket.WellTyped := by constructor <;> simp [ticket]
  have htyped : states.WellTyped := by
    constructor <;> simp [states, hopen, hother, hticket]
    exact ⟨⟨⟨1, rfl⟩, ⟨_, rfl⟩, ⟨_, rfl⟩, .inl rfl⟩, ⟨⟨1, rfl⟩, ⟨_, rfl⟩, ⟨_, rfl⟩, .inl rfl⟩⟩
  have hids : (states.types.map (·.id)).Nodup := by
    simp [states, openState, otherState, ticket]
  obtain ⟨resolution, hresolve, hstate, hbase⟩ : ∃ resolution,
      ({} : Generator).resolve states = .ok resolution ∧
        resolution.registry.find? openState.id =
          .ok (some (.enum (.text "state") [.text "open"] none)) ∧
        allStates.baseType resolution.registry = .ok .dynamic := ⟨_, rfl, rfl, rfl⟩
  obtain ⟨byName, hbyName, hfind⟩ : ∃ byName, tableBy (·.name) states.types = .ok byName ∧
      byName.find? (labelOf allStates.format).key = some openState := ⟨_, rfl, rfl⟩
  obtain ⟨last, target, hlast, hname, hid, htarget⟩ :=
    (find?_last_of_name {} htyped hids hresolve).2.2 allStates (by simp [states])
      (fun hjson => by cases hjson) byName hbyName openState hfind
  cases hbase.symm.trans htarget
  exact ⟨htyped, hids, resolution, byName, last, hresolve, hbyName, hfind, hstate, hlast, hname,
    hid, hbase⟩

end Generator
end DartModels
