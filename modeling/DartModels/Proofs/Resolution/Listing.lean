import DartModels.Proofs.Catalog.Collection
import DartModels.Proofs.Catalog.Snapshot
import DartModels.Resolution.Generator

namespace DartModels.Catalog

/-- What is required of one list is required of each other list that has it too. -/
theorem Required.transfer {types others : List CatalogType} {columns : List Column}
    (hmem : ∀ type, Required types columns type → type ∈ others) {type : CatalogType}
    (h : Required types columns type) : Required others columns type := by
  induction h with
  | named hcolumn htype hname => exact .named hcolumn (hmem _ (.named hcolumn htype hname)) hname
  | element hcolumn htype harray =>
    exact .element hcolumn (hmem _ (.element hcolumn htype harray)) harray
  | referred htype hother hrefers ih =>
    exact ih.referred (hmem _ (htype.referred hother hrefers)) hrefers

/-- All types of a list that have a certain key are required. -/
def RequiredUnder (types : List CatalogType) (columns : List Column) (key : Json.Key) : Prop :=
  ∀ type ∈ types, type.id.key? = some key → Required types columns type

section

variable {types : List CatalogType} {columns : List Column} {byId byName : Table CatalogType}
  (htypes : Unambiguous types) (hbyName : tableBy (·.name) types = .ok byName)
include htypes hbyName

theorem requiredUnder_of_namedKeys {column : Column} (hcolumn : column ∈ columns) {format : String}
    (hformat : column.format = .text format) {key : Json.Key}
    (hkey : key ∈ namedKeys byName format) : RequiredUnder types columns key := by
  intro type htype htypeKey
  obtain ⟨other, hother, hotherKey, hnamed⟩ :=
    (mem_namedKeys_iff htypes.toWellTyped htypes.distinctNames hbyName).mp hkey
  obtain rfl := htypes.eq_of_key?_eq htypes.distinctIds hother htype
    (hotherKey.trans htypeKey.symm)
  rw [← hformat] at hnamed
  rcases hnamed with hname | harray
  · exact .named hcolumn hother hname
  · exact .element hcolumn hother harray

theorem requiredUnder_of_references (hbyId : tableBy (·.id) types = .ok byId)
    {source target : Json.Key} (hnode : source ∈ byId.keys)
    (hsource : RequiredUnder types columns source)
    (hstep : .ok target ∈ references byId byName source) : RequiredUnder types columns target := by
  intro other hother htarget
  obtain ⟨type, htype, hkey⟩ := (mem_keys_tableBy hbyId).mp hnode
  have hrefers := (ok_mem_references_iff htypes.toWellTyped htypes.distinctIds
    htypes.distinctNames hbyId hbyName htype hkey hother htarget).mp hstep
  exact .referred (hsource type htype hkey) hother hrefers

end

section

variable {types others : List CatalogType} {columns : List Column}
  {byId otherById byName otherByName : Table CatalogType}
  (hsame : ∀ type, Required types columns type ↔ Required others columns type)
include hsame

theorem mem_iff_of_required {type : CatalogType}
    (htype : type ∈ types → Required types columns type)
    (hother : type ∈ others → Required others columns type) : type ∈ types ↔ type ∈ others :=
  ⟨fun hmem => ((hsame type).mp (htype hmem)).mem, fun hmem => ((hsame type).mpr (hother hmem)).mem⟩

variable (htypes : Unambiguous types) (hothers : Unambiguous others)
include htypes hothers

/-- Two lists of which the same types are required agree on a name if all types of that name
    are required. -/
theorem find?_name_congr (hbyName : tableBy (·.name) types = .ok byName)
    (hotherByName : tableBy (·.name) others = .ok otherByName) {name : String}
    (hrequired : ∀ type ∈ types, type.name = .text name → Required types columns type)
    (hotherRequired : ∀ type ∈ others, type.name = .text name → Required others columns type) :
    byName.find? (.text name) = otherByName.find? (.text name) := by
  refine Option.ext fun type => ?_
  rw [htypes.find?_name_iff htypes.distinctNames hbyName,
    hothers.find?_name_iff hothers.distinctNames hotherByName]
  refine and_congr_left fun hname => ?_
  exact mem_iff_of_required hsame (hrequired type · hname) (hotherRequired type · hname)

/-- Two lists of which the same types are required agree on an id if all types of that id
    are required. -/
theorem find?_id_congr (hbyId : tableBy (·.id) types = .ok byId)
    (hotherById : tableBy (·.id) others = .ok otherById) {key : Json.Key}
    (hkey : RequiredUnder types columns key ∧ RequiredUnder others columns key) :
    byId.find? key = otherById.find? key := by
  refine Option.ext fun type => ?_
  rw [find?_tableBy_of_nodup hbyId (htypes.nodup_ids htypes.distinctIds),
    find?_tableBy_of_nodup hotherById (hothers.nodup_ids hothers.distinctIds)]
  refine and_congr_left fun htypeKey => ?_
  exact mem_iff_of_required hsame (hkey.1 type · htypeKey) (hkey.2 type · htypeKey)

theorem references_congr (hbyId : tableBy (·.id) types = .ok byId)
    (hotherById : tableBy (·.id) others = .ok otherById)
    (hbyName : tableBy (·.name) types = .ok byName)
    (hotherByName : tableBy (·.name) others = .ok otherByName) {key : Json.Key}
    (hnode : key ∈ byId.keys)
    (hkey : RequiredUnder types columns key ∧ RequiredUnder others columns key) :
    references byId byName key = references otherById otherByName key := by
  have hfind := find?_id_congr hsame htypes hothers hbyId hotherById hkey
  obtain ⟨type, htype⟩ := Option.isSome_iff_exists.mp ((byId.find?_isSome_iff key).mpr hnode)
  obtain ⟨hmem, htypeKey⟩ := mem_of_find?_tableBy hbyId htype
  have hrequired := hkey.1 type hmem htypeKey
  obtain ⟨name, hname⟩ := htypes.names type hmem
  unfold references
  rw [← hfind, htype]
  simp only [hname, markedName]
  by_cases harray : isArrayName name
  · have hrefers : ∀ {other : CatalogType}, other.name = .text (baseName name) →
        RefersTo type other := by
      intro other hother
      refine .inr ?_
      rw [hname, hother, isArrayOf_text_iff]
      exact ⟨harray, rfl⟩
    rw [find?_name_congr hsame htypes hothers hbyName hotherByName
      (fun _ hother hotherName => hrequired.referred hother (hrefers hotherName))
      (fun _ hother hotherName =>
        ((hsame type).mp hrequired).referred hother (hrefers hotherName))]
  · simp only [harray, Bool.false_eq_true, if_false]

theorem namedKeys_congr (hbyName : tableBy (·.name) types = .ok byName)
    (hotherByName : tableBy (·.name) others = .ok otherByName) {column : Column}
    (hcolumn : column ∈ columns) {format : String} (hformat : column.format = .text format) :
    byName.find? (.text format) = otherByName.find? (.text format) ∧
      namedKeys byName format = namedKeys otherByName format := by
  have hnamed : byName.find? (.text format) = otherByName.find? (.text format) :=
    find?_name_congr hsame htypes hothers hbyName hotherByName
      (fun _ htype hname => .named hcolumn htype (hname.trans hformat.symm))
      (fun _ htype hname => .named hcolumn htype (hname.trans hformat.symm))
  refine ⟨hnamed, ?_⟩
  rw [namedKeys, namedKeys, hnamed]
  by_cases harray : isArrayName format
  · have hisArray : ∀ {type : CatalogType}, type.name = .text (baseName format) →
        IsArrayOf column.format type.name := by
      intro type hname
      rw [hformat, hname, isArrayOf_text_iff]
      exact ⟨harray, rfl⟩
    rw [find?_name_congr hsame htypes hothers hbyName hotherByName
      (fun _ htype hname => .element hcolumn htype (hisArray hname))
      (fun _ htype hname => .element hcolumn htype (hisArray hname))]
  · simp only [harray, Bool.false_eq_true, if_false]

section

variable (hbyId : tableBy (·.id) types = .ok byId)
  (hotherById : tableBy (·.id) others = .ok otherById)
  (hbyName : tableBy (·.name) types = .ok byName)
  (hotherByName : tableBy (·.name) others = .ok otherByName)
include hbyId hotherById

theorem mem_keys_congr {key : Json.Key}
    (hkey : RequiredUnder types columns key ∧ RequiredUnder others columns key) :
    key ∈ byId.keys ↔ key ∈ otherById.keys := by
  rw [← byId.find?_isSome_iff, ← otherById.find?_isSome_iff,
    find?_id_congr hsame htypes hothers hbyId hotherById hkey]

include hbyName hotherByName

/-- The keys whose types are required are closed under the steps of the search. -/
theorem requiredUnder_step {source target : Json.Key} (hnode : source ∈ byId.keys)
    (hsource : RequiredUnder types columns source ∧ RequiredUnder others columns source)
    (hstep : .ok target ∈ references byId byName source) :
    RequiredUnder types columns target ∧ RequiredUnder others columns target := by
  have hother := (mem_keys_congr hsame htypes hothers hbyId hotherById hsource).mp hnode
  have hotherStep := hstep
  rw [references_congr hsame htypes hothers hbyId hotherById hbyName hotherByName hnode
    hsource] at hotherStep
  exact ⟨requiredUnder_of_references htypes hbyName hbyId hnode hsource.1 hstep,
    requiredUnder_of_references hothers hotherByName hotherById hother hsource.2 hotherStep⟩

variable {starts : List Json.Key} (hstarts : ∀ start ∈ starts,
  RequiredUnder types columns start ∧ RequiredUnder others columns start)
include hstarts

/-- The searches through both lists reach the same keys in the same order. -/
theorem reachable_references_congr :
    Graph.reachable byId.keys (references byId byName) starts =
      Graph.reachable otherById.keys (references otherById otherByName) starts :=
  Graph.reachable_congr
    (fun _ => mem_keys_congr hsame htypes hothers hbyId hotherById)
    (fun _ => references_congr hsame htypes hothers hbyId hotherById hbyName hotherByName)
    (fun _ hnode hkey _ => requiredUnder_step hsame htypes hothers hbyId hotherById hbyName
      hotherByName hnode hkey) hstarts

theorem filterMap_find?_congr {keys : List Json.Key}
    (hkeys : Graph.reachable byId.keys (references byId byName) starts = .ok keys) :
    keys.filterMap byId.find? = keys.filterMap otherById.find? := by
  obtain ⟨_, hreached⟩ := (Graph.reachable_ends _ _ _).of_eq_ok hkeys
  refine List.filterMap_congr fun key hkey => ?_
  refine find?_id_congr hsame htypes hothers hbyId hotherById ?_
  induction (hreached key).mp hkey with
  | start hstart _ => exact hstarts _ hstart
  | step hsource hstep _ ih =>
    have hsourceKey := ih ((hreached _).mpr hsource)
    exact requiredUnder_step hsame htypes hothers hbyId hotherById hbyName hotherByName
      hsource.mem hsourceKey hstep

end

/-- Where the same types are required of two lists, it makes no difference from which of
    them they are collected. -/
theorem requiredTypes_congr
    (hformats : ∀ column ∈ columns, ∃ format, column.format = .text format) :
    requiredTypes types columns = requiredTypes others columns := by
  obtain ⟨byId, hbyId⟩ := htypes.exists_tableBy_id
  obtain ⟨byName, hbyName⟩ := htypes.exists_tableBy_name
  obtain ⟨otherById, hotherById⟩ := hothers.exists_tableBy_id
  obtain ⟨otherByName, hotherByName⟩ := hothers.exists_tableBy_name
  have hnamed : ∀ column ∈ columns, _ ∧ _ := fun column hcolumn =>
    namedKeys_congr hsame htypes hothers hbyName hotherByName hcolumn
      (format_eq_text hformats column hcolumn)
  -- Notes and starts of the two searches are the same, and so is what they reach.
  have hcolumns : columns.mapM (formatIds byName) = columns.mapM (formatIds otherByName) := by
    refine Traced.mapM_congr fun column hcolumn => ?_
    have htext := format_eq_text hformats column hcolumn
    rw [formatIds_eq htext, formatIds_eq htext, (hnamed column hcolumn).1,
      (hnamed column hcolumn).2]
  have hstarts : ∀ start ∈ (columns.map fun column =>
      namedKeys byName column.format.spelling).flatten,
      RequiredUnder types columns start ∧ RequiredUnder others columns start := by
    intro start hstart
    obtain ⟨_, hkeys, hmem⟩ := List.mem_flatten.mp hstart
    obtain ⟨column, hcolumn, rfl⟩ := List.mem_map.mp hkeys
    have htext := format_eq_text hformats column hcolumn
    refine ⟨requiredUnder_of_namedKeys htypes hbyName hcolumn htext hmem, ?_⟩
    rw [(hnamed column hcolumn).2] at hmem
    exact requiredUnder_of_namedKeys hothers hotherByName hcolumn htext hmem
  rw [requiredTypes_eq_search hbyId hbyName (mapM_formatIds byName hformats),
    requiredTypes_eq_search hotherById hotherByName
      (hcolumns.symm.trans (mapM_formatIds byName hformats)),
    ← reachable_references_congr hsame htypes hothers hbyId hotherById hbyName hotherByName hstarts]
  cases hkeys : Graph.reachable byId.keys (references byId byName)
      (columns.map fun column => namedKeys byName column.format.spelling).flatten with
  | error fault => rfl
  | ok keys =>
    exact congrArg (fun found => Traced.mk _ (sortByDependency found))
      (filterMap_find?_congr hsame htypes hothers hbyId hotherById hbyName hotherByName hstarts
        hkeys)

end

end DartModels.Catalog

namespace DartModels.Generator

open Catalog (Required Unambiguous requiredTypes_congr)

/-- A run does not depend on how the catalog lists its types: two lists of which the columns
    require the same types give the same result and the same file, or the same failure. They
    may differ in their order, and in all types that nothing required refers to. -/
theorem resolve_generate_listing (generator : Generator) {snapshot : Snapshot}
    {others : List CatalogType} (htyped : snapshot.WellTyped)
    (hothers : { snapshot with types := others }.WellTyped)
    (hids : (snapshot.types.map (·.id)).Nodup) (hnames : (snapshot.types.map (·.name)).Nodup)
    (hotherIds : (others.map (·.id)).Nodup) (hotherNames : (others.map (·.name)).Nodup)
    (hsame : ∀ type, Required snapshot.types snapshot.columns type ↔
      Required others snapshot.columns type) :
    generator.resolve { snapshot with types := others } = generator.resolve snapshot ∧
      generator.generate { snapshot with types := others } = generator.generate snapshot := by
  have htypes : Unambiguous snapshot.types := ⟨htyped.catalog, hids, hnames⟩
  have hotherTypes : Unambiguous others := ⟨hothers.catalog, hotherIds, hotherNames⟩
  have hresolve : generator.resolve { snapshot with types := others } =
      generator.resolve snapshot := by
    unfold resolve
    rw [requiredTypes_congr hsame htypes hotherTypes htyped.formats]
  refine ⟨hresolve, ?_⟩
  unfold generate
  rw [hresolve]
  rfl

def contact : CatalogType :=
  { id := .int 1, name := .text "contact", attributes := [⟨.text "kind", .int 3⟩] }

def contactArray : CatalogType := { id := .int 2, name := .text "_contact" }

def contactKind : CatalogType := { id := .int 3, name := .text "kind", enums := [.text "work"] }

/-- A type that refers to a contact and that nothing refers to. -/
def letter : CatalogType :=
  { id := .int 4, name := .text "letter", attributes := [⟨.text "to", .int 1⟩] }

def contacts : Snapshot :=
  { schemas := []
    tables := []
    views := []
    columns := [{ tableId := .int 1, name := .text "all", format := .text "_contact" }]
    types := [contactArray, contact, contactKind] }

theorem wellTyped_contacts :
    ∀ type ∈ [letter, contactKind, contact, contactArray], type.WellTyped := by
  have hletter : letter.WellTyped := by constructor <;> simp [letter]
  have hkind : contactKind.WellTyped := by constructor <;> simp [contactKind]
  have hcontact : contact.WellTyped := by constructor <;> simp [contact]
  have harray : contactArray.WellTyped := by constructor <;> simp [contactArray]
  simp [hletter, hkind, hcontact, harray]

theorem letter_notRequired :
    ¬ Required [letter, contactKind, contact, contactArray] contacts.columns letter := by
  generalize hletter : letter = type
  intro h
  cases h with
  | named hcolumn _ hname =>
    simp only [contacts, List.mem_singleton] at hcolumn
    subst hcolumn hletter
    simp [letter] at hname
  | element hcolumn _ harray =>
    simp only [contacts, List.mem_singleton] at hcolumn
    subst hcolumn hletter
    exact absurd (Catalog.isArrayOf_text_iff.mp harray).2 (by decide)
  | referred htype _ hrefers =>
    subst hletter
    rcases hrefers with ⟨part, hpart, hkey⟩ | harray
    · have hmem := htype.mem
      simp only [List.mem_cons, List.not_mem_nil, or_false] at hmem
      rcases hmem with rfl | rfl | rfl | rfl <;>
        simp_all [letter, contactKind, contact, contactArray, Json.key?]
    · have hmem := htype.mem
      simp only [List.mem_cons, List.not_mem_nil, or_false] at hmem
      rcases hmem with rfl | rfl | rfl | rfl <;>
        exact absurd (Catalog.isArrayOf_text_iff.mp harray) (by decide)

theorem required_contacts_iff (type : CatalogType) :
    Required contacts.types contacts.columns type ↔
      Required [letter, contactKind, contact, contactArray] contacts.columns type := by
  constructor
  · refine Required.transfer fun type htype => ?_
    have hmem := htype.mem
    simp only [contacts, List.mem_cons, List.not_mem_nil, or_false] at hmem ⊢
    tauto
  · refine Required.transfer fun type htype => ?_
    have hmem := htype.mem
    have hother : type ≠ letter := fun h => letter_notRequired (h ▸ htype)
    simp only [contacts, List.mem_cons, List.not_mem_nil, or_false] at hmem ⊢
    tauto

/-- A letter in front of the types that are needed changes nothing, and neither does their
    order. -/
theorem resolve_generate_listing_contacts :
    ({} : Generator).resolve
        { contacts with types := [letter, contactKind, contact, contactArray] } =
      ({} : Generator).resolve contacts ∧
    ({} : Generator).generate
        { contacts with types := [letter, contactKind, contact, contactArray] } =
      ({} : Generator).generate contacts := by
  have hcolumns : ∀ column ∈ contacts.columns, column.WellTyped := by
    simp only [contacts, List.mem_singleton, forall_eq]
    exact ⟨⟨1, rfl⟩, ⟨_, rfl⟩, ⟨_, rfl⟩, .inl rfl⟩
  have htyped : contacts.WellTyped := by
    refine ⟨by simp [contacts], by simp [contacts], by simp [contacts], hcolumns, ?_⟩
    intro type htype
    refine wellTyped_contacts type ?_
    simp only [contacts, List.mem_cons, List.not_mem_nil, or_false] at htype ⊢
    tauto
  have hothers :
      { contacts with types := [letter, contactKind, contact, contactArray] }.WellTyped :=
    ⟨by simp [contacts], by simp [contacts], by simp [contacts], hcolumns, wellTyped_contacts⟩
  exact resolve_generate_listing {} htyped hothers
    (by simp [contacts, contactArray, contact, contactKind])
    (by simp [contacts, contactArray, contact, contactKind])
    (by simp [letter, contactArray, contact, contactKind])
    (by simp [letter, contactArray, contact, contactKind]) required_contacts_iff

end DartModels.Generator
