import DartModels.Catalog.Requirement
import DartModels.Proofs.Catalog.Order
import DartModels.Proofs.Graph.Reachable
import DartModels.Proofs.Traced

open Relation (TransGen)

namespace DartModels.Catalog

/-- The types that a list of columns needs: those that the formats name, the element
    types of those that are named as arrays, and all that these refer to. -/
inductive Required (types : List CatalogType) (columns : List Column) : CatalogType → Prop where
  | named {column : Column} {type : CatalogType} (hcolumn : column ∈ columns) (htype : type ∈ types)
      (hname : type.name = column.format) : Required types columns type
  | element {column : Column} {type : CatalogType} (hcolumn : column ∈ columns)
      (htype : type ∈ types) (harray : IsArrayOf column.format type.name) :
      Required types columns type
  | referred {type other : CatalogType} (htype : Required types columns type)
      (hother : other ∈ types) (hrefers : RefersTo type other) : Required types columns other

/-- One type of a set refers to another one of the set that is not itself. -/
def RefersWithin (set : CatalogType → Prop) (type other : CatalogType) : Prop :=
  set type ∧ set other ∧ other.id ≠ type.id ∧ RefersTo type other

variable {types : List CatalogType} {columns : List Column} {byId byName : Table CatalogType}

theorem Required.mem {type : CatalogType} (h : Required types columns type) : type ∈ types := by
  cases h with
  | named _ htype _ => exact htype
  | element _ htype _ => exact htype
  | referred _ hother _ => exact hother

/-- More columns require more types. -/
theorem Required.mono {others : List Column} (hsub : ∀ column ∈ columns, column ∈ others)
    {type : CatalogType} (h : Required types columns type) : Required types others type := by
  induction h with
  | named hcolumn htype hname => exact .named (hsub _ hcolumn) htype hname
  | element hcolumn htype harray => exact .element (hsub _ hcolumn) htype harray
  | referred _ hother hrefers ih => exact ih.referred hother hrefers

theorem format_eq_text (hformats : ∀ column ∈ columns, ∃ format, column.format = .text format) :
    ∀ column ∈ columns, column.format = .text column.format.spelling := by
  intro column hcolumn
  obtain ⟨format, hformat⟩ := hformats column hcolumn
  rw [hformat]
  rfl

/-- The keys of the types that a format names, by its own name and by that of its
    elements. -/
def namedKeys (byName : Table CatalogType) (format : String) : List Json.Key :=
  (((byName.find? (.text format)).map (·.id)).toList ++
    if isArrayName format then ((byName.find? (.text (baseName format))).map (·.id)).toList
    else []).filterMap Json.key?

/-- A column with a text as its format always gives keys, and a note if there is no type
    of that name. -/
theorem formatIds_eq {column : Column} {format : String} (hformat : column.format = .text format) :
    formatIds byName column =
      ⟨if (byName.find? (.text format)).isSome then [] else [typeNotFound column],
        .ok (namedKeys byName format)⟩ := by
  have hlabel : label (.text format) = .ok ⟨.text format, .text format⟩ := rfl
  unfold formatIds namedKeys
  simp only [hformat, hlabel, markedName, Traced.lift_ok_bind]
  generalize byName.find? (.text format) = named
  cases named <;> rfl

/-- A column whose format names no type of a list. -/
def namesNone (types : List CatalogType) (column : Column) : Bool :=
  !types.any fun type => type.name.equals column.format

/-- The steps of all columns note those that name no type, in order. -/
theorem formatIds_columns {format : Column → String}
    (hformats : ∀ column ∈ columns, column.format = .text (format column))
    (hnames : ∀ column ∈ columns,
      (byName.find? (.text (format column))).isSome = !namesNone types column) :
    columns.mapM (formatIds byName) =
      ⟨(columns.filter (namesNone types)).map typeNotFound,
        .ok (columns.map fun column => namedKeys byName (format column))⟩ := by
  rw [Traced.mapM_eq_of_ok fun column hcolumn => formatIds_eq (hformats column hcolumn)]
  refine congrArg (Traced.mk · _) ?_
  induction columns with
  | nil => rfl
  | cons column rest ih =>
    have hrest := ih (fun column h => hformats column (List.mem_cons_of_mem _ h))
      fun column h => hnames column (List.mem_cons_of_mem _ h)
    rw [List.flatMap_cons, hrest, hnames column List.mem_cons_self, List.filter_cons]
    cases namesNone types column <;> rfl

section

variable (htypes : WellTyped types) (hnames : (types.map (·.name)).Nodup)
  (hbyName : tableBy (·.name) types = .ok byName)
include htypes hnames hbyName

theorem find?_isSome_eq {column : Column} {format : String}
    (hformat : column.format = .text format) :
    (byName.find? (.text format)).isSome = !namesNone types column := by
  have hequals : ∀ type ∈ types, type.name.equals column.format ↔ type.name = .text format := by
    intro type htype
    obtain ⟨name, hname⟩ := htypes.names type htype
    simp [hformat, hname, Json.equals, Json.same, Json.key?]
  rw [Bool.eq_iff_iff, Option.isSome_iff_exists, namesNone, Bool.not_not, List.any_eq_true]
  simp only [htypes.find?_name_iff hnames hbyName]
  exact exists_congr fun type => and_congr_right fun htype => (hequals type htype).symm

/-- A format gives the keys of the type of its name and of the type of its elements. -/
theorem mem_namedKeys_iff {format : String} {key : Json.Key} :
    key ∈ namedKeys byName format ↔ ∃ type ∈ types, type.id.key? = some key ∧
      (type.name = .text format ∨ IsArrayOf (.text format) type.name) := by
  have hnamed : ∀ name id, id ∈ ((byName.find? (.text name)).map (·.id)).toList ↔
      ∃ type ∈ types, type.name = .text name ∧ type.id = id := by
    intro name id
    simp [htypes.find?_name_iff hnames hbyName, and_assoc]
  have harray : ∀ type ∈ types, IsArrayOf (.text format) type.name ↔
      isArrayName format ∧ type.name = .text (baseName format) := by
    intro type htype
    obtain ⟨name, hname⟩ := htypes.names type htype
    rw [hname, isArrayOf_text_iff, Json.text.injEq, eq_comm (a := name)]
  simp only [namedKeys, List.mem_filterMap, List.mem_append, List.mem_ite_nil_right, hnamed]
  constructor
  · rintro ⟨id, ⟨type, htype, hname, rfl⟩ | ⟨hmark, type, htype, hname, rfl⟩, hkey⟩
    · exact ⟨type, htype, hkey, .inl hname⟩
    · exact ⟨type, htype, hkey, .inr ((harray type htype).mpr ⟨hmark, hname⟩)⟩
  · rintro ⟨type, htype, hkey, hname | helement⟩
    · exact ⟨type.id, .inl ⟨type, htype, hname, rfl⟩, hkey⟩
    · obtain ⟨hmark, hname⟩ := (harray type htype).mp helement
      exact ⟨type.id, .inr ⟨hmark, type, htype, hname, rfl⟩, hkey⟩

end

theorem map_label_eq_ok_iff {value : Json} {key : Json.Key} :
    (label value).map (·.key) = .ok key ↔ value.key? = some key := by
  unfold label Label.of?
  cases value.key? <;> simp [Except.map]

/-- The steps from a type with a text as its name: to the types of its attributes and to
    that of its elements. -/
theorem mem_references_iff {source : Json.Key} {type : CatalogType} {name : String}
    (hfind : byId.find? source = some type) (hname : type.name = .text name)
    {step : Except Fault Json.Key} :
    step ∈ references byId byName source ↔
      (∃ part ∈ type.attributes, (label part.typeId).map (·.key) = step) ∨
        ∃ element, isArrayName name ∧ byName.find? (.text (baseName name)) = some element ∧
          ∃ key, element.id.key? = some key ∧ .ok key = step := by
  unfold references
  rw [hfind]
  simp only [hname, markedName, List.mem_append, List.mem_map, List.mem_ite_nil_right,
    Option.mem_toList, Option.bind_eq_some_iff]
  grind

section

variable (htypes : WellTyped types) (hids : (types.map (·.id)).Nodup)
  (hnames : (types.map (·.name)).Nodup) (hbyId : tableBy (·.id) types = .ok byId)
  (hbyName : tableBy (·.name) types = .ok byName)
include htypes hbyId

/-- No step meets a value of the wrong kind. -/
theorem error_notMem_references {source : Json.Key} {fault : Fault} :
    .error fault ∉ references byId byName source := by
  intro hmem
  cases hfind : byId.find? source with
  | none =>
    rw [references, hfind] at hmem
    cases hmem
  | some type =>
    have htype := (mem_of_find?_tableBy hbyId hfind).1
    obtain ⟨name, hname⟩ := htypes.names type htype
    rcases (mem_references_iff hfind hname).mp hmem with ⟨part, hpart, heq⟩ | ⟨_, _, _, _, _, h⟩
    · obtain ⟨key, hkey⟩ := Option.isSome_iff_exists.mp (htypes.parts type htype part hpart)
      rw [map_label_eq_ok_iff.mpr hkey] at heq
      cases heq
    · cases h

include hids hnames hbyName

/-- The steps from one type to another are its references. -/
theorem ok_mem_references_iff {source target : Json.Key} {type other : CatalogType}
    (htype : type ∈ types) (hsource : type.id.key? = some source) (hother : other ∈ types)
    (htarget : other.id.key? = some target) :
    .ok target ∈ references byId byName source ↔ RefersTo type other := by
  have hfind : byId.find? source = some type :=
    (find?_tableBy_of_nodup hbyId (htypes.nodup_ids hids)).mpr ⟨htype, hsource⟩
  obtain ⟨name, hname⟩ := htypes.names type htype
  simp only [mem_references_iff hfind hname, map_label_eq_ok_iff, Except.ok.injEq,
    exists_eq_right]
  rw [RefersTo, htarget, hname, ← finds_element_iff htypes hids hnames hbyName hother htarget,
    exists_and_left]

section

variable {format : Column → String}
  (hformats : ∀ column ∈ columns, column.format = .text (format column))
include hformats

/-- Each key that the search reaches is that of a required type. -/
theorem required_of_reached {key : Json.Key}
    (hreached : Graph.Reached byId.keys (references byId byName)
      (columns.map fun column => namedKeys byName (format column)).flatten key) :
    ∃ type, Required types columns type ∧ type.id.key? = some key := by
  induction hreached with
  | start hstart hnode =>
    obtain ⟨keys, hkeys, hmem⟩ := List.mem_flatten.mp hstart
    obtain ⟨column, hcolumn, rfl⟩ := List.mem_map.mp hkeys
    obtain ⟨type, htype, hkey, hnamed⟩ := (mem_namedKeys_iff htypes hnames hbyName).mp hmem
    rw [← hformats column hcolumn] at hnamed
    rcases hnamed with hname | harray
    · exact ⟨type, .named hcolumn htype hname, hkey⟩
    · exact ⟨type, .element hcolumn htype harray, hkey⟩
  | step _ hstep htarget ih =>
    obtain ⟨type, hrequired, hkey⟩ := ih
    obtain ⟨other, hother, hotherKey⟩ := (mem_keys_tableBy hbyId).mp htarget
    have hrefers := (ok_mem_references_iff htypes hids hnames hbyId hbyName hrequired.mem hkey
      hother hotherKey).mp hstep
    exact ⟨other, .referred hrequired hother hrefers, hotherKey⟩

/-- The search reaches the key of each required type. -/
theorem reached_of_required {type : CatalogType} (hrequired : Required types columns type)
    {key : Json.Key} (hkey : type.id.key? = some key) :
    Graph.Reached byId.keys (references byId byName)
      (columns.map fun column => namedKeys byName (format column)).flatten key := by
  have hnode : ∀ {type key}, type ∈ types → type.id.key? = some key → key ∈ byId.keys :=
    fun htype hkey => (mem_keys_tableBy hbyId).mpr ⟨_, htype, hkey⟩
  have hstart : ∀ {column type key}, column ∈ columns → type ∈ types →
      type.id.key? = some key →
      type.name = column.format ∨ IsArrayOf column.format type.name →
      key ∈ (columns.map fun column => namedKeys byName (format column)).flatten := by
    intro column type key hcolumn htype hkey hnamed
    rw [hformats column hcolumn] at hnamed
    exact List.mem_flatten.mpr ⟨_, List.mem_map_of_mem hcolumn,
      (mem_namedKeys_iff htypes hnames hbyName).mpr ⟨type, htype, hkey, hnamed⟩⟩
  induction hrequired generalizing key with
  | named hcolumn htype hname =>
    exact .start (hstart hcolumn htype hkey (.inl hname)) (hnode htype hkey)
  | element hcolumn htype harray =>
    exact .start (hstart hcolumn htype hkey (.inr harray)) (hnode htype hkey)
  | @referred type other hrequired hother hrefers ih =>
    obtain ⟨source, hsource⟩ := htypes.exists_key hrequired.mem
    have hstep := (ok_mem_references_iff htypes hids hnames hbyId hbyName hrequired.mem hsource
      hother hkey).mpr hrefers
    exact .step (ih hsource) hstep (hnode hother hkey)

end

end

section

variable {edges : Table (List Label)} (htypes : WellTyped types)
  (hids : (types.map (·.id)).Nodup) (hnames : (types.map (·.name)).Nodup)
  (hedges : dependencies types = .ok edges)
include htypes hids hnames hedges

/-- A way through the type graph is a chain of references. -/
theorem transGen_refersWithin_of_leadsTo {source target : Json.Key}
    (hleads : TransGen (LeadsTo types edges) source target) {type : CatalogType}
    (htype : type ∈ types) (hsource : type.id.key? = some source) :
    ∃ other ∈ types, other.id.key? = some target ∧
      TransGen (RefersWithin (· ∈ types)) type other := by
  induction hleads with
  | single hedge =>
    obtain ⟨_, ⟨other, hother, htarget⟩, hmem⟩ := hedge
    have hneeds := (needs_iff htypes hids hnames hedges htype hother).mp
      ⟨_, _, hsource, htarget, hmem⟩
    exact ⟨other, hother, htarget, .single ⟨htype, hother, hneeds⟩⟩
  | tail _ hedge ih =>
    obtain ⟨middle, hmiddle, hkey, hchain⟩ := ih
    obtain ⟨_, ⟨other, hother, htarget⟩, hmem⟩ := hedge
    have hneeds := (needs_iff htypes hids hnames hedges hmiddle hother).mp
      ⟨_, _, hkey, htarget, hmem⟩
    exact ⟨other, hother, htarget, hchain.tail ⟨hmiddle, hother, hneeds⟩⟩

/-- A chain of references is a way through the type graph. -/
theorem transGen_leadsTo_of_refersWithin {type other : CatalogType}
    (hchain : TransGen (RefersWithin (· ∈ types)) type other) {source target : Json.Key}
    (hsource : type.id.key? = some source) (htarget : other.id.key? = some target) :
    TransGen (LeadsTo types edges) source target := by
  have hedge : ∀ {type other source target}, RefersWithin (· ∈ types) type other →
      type.id.key? = some source → other.id.key? = some target →
      LeadsTo types edges source target := by
    rintro type other source target ⟨htype, hother, hrefers⟩ hsource htarget
    obtain ⟨key, otherKey, hkey, hotherKey, hmem⟩ :=
      (needs_iff htypes hids hnames hedges htype hother).mpr hrefers
    cases hkey.symm.trans hsource
    cases hotherKey.symm.trans htarget
    exact ⟨⟨type, htype, hsource⟩, ⟨other, hother, htarget⟩, hmem⟩
  induction hchain generalizing target with
  | single hrefers => exact .single (hedge hrefers hsource htarget)
  | tail _ hrefers ih =>
    obtain ⟨key, hkey⟩ := htypes.exists_key hrefers.1
    exact .tail (ih hkey) (hedge hrefers hkey htarget)

/-- An id leads back to itself exactly if its type does. -/
theorem cycle_iff {type : CatalogType} (htype : type ∈ types) {key : Json.Key}
    (hkey : type.id.key? = some key) :
    TransGen (LeadsTo types edges) key key ↔ TransGen (RefersWithin (· ∈ types)) type type := by
  constructor
  · intro hcycle
    obtain ⟨other, hother, hotherKey, hchain⟩ :=
      transGen_refersWithin_of_leadsTo htypes hids hnames hedges hcycle htype hkey
    have hsame := htypes.eq_of_key?_eq hids hother htype (hotherKey.trans hkey.symm)
    exact hsame ▸ hchain
  · intro hcycle
    exact transGen_leadsTo_of_refersWithin htypes hids hnames hedges hcycle hkey hkey

end

section

variable (htypes : WellTyped types) (hids : (types.map (·.id)).Nodup)
  (hnames : (types.map (·.name)).Nodup)
include htypes hids hnames

/-- Types that are told apart cannot be sorted exactly if they refer to each other in a circle. -/
theorem sortByDependency_fails_iff_circle :
    (∃ failure, sortByDependency types = .error failure) ↔
      ∃ type, TransGen (RefersWithin (· ∈ types)) type type := by
  obtain ⟨edges, hedges⟩ := htypes.exists_dependencies
  rw [sortByDependency_fails_iff htypes hedges]
  constructor
  · rintro ⟨key, hleads⟩
    obtain ⟨_, ⟨⟨type, htype, hkey⟩, _⟩, _⟩ := TransGen.head'_iff.mp hleads
    exact ⟨type, (cycle_iff htypes hids hnames hedges htype hkey).mp hleads⟩
  · rintro ⟨type, hchain⟩
    obtain ⟨_, ⟨htype, _⟩, _⟩ := TransGen.head'_iff.mp hchain
    obtain ⟨key, hkey⟩ := htypes.exists_key htype
    exact ⟨key, (cycle_iff htypes hids hnames hedges htype hkey).mpr hchain⟩

/-- The failure names a type of a circle. -/
theorem exists_circle_of_sortByDependency {failure : Failure}
    (hfailed : sortByDependency types = .error failure) :
    ∃ type, TransGen (RefersWithin (· ∈ types)) type type ∧
      failure = .problem (.circularDependency type.name .null []) := by
  obtain ⟨edges, hedges⟩ := htypes.exists_dependencies
  obtain ⟨key, type, hleads, hlast, hkey, rfl⟩ := sortByDependency_failure htypes hedges hfailed
  exact ⟨type, (cycle_iff htypes hids hnames hedges hlast.mem hkey).mp hleads, rfl⟩

end

/-- Collecting is the search from what the columns name and the sorting of what it finds. -/
theorem requiredTypes_eq_search (hbyId : tableBy (·.id) types = .ok byId)
    (hbyName : tableBy (·.name) types = .ok byName) {notes : List Diagnostic}
    {starts : List (List Json.Key)}
    (hcolumns : columns.mapM (formatIds byName) = ⟨notes, .ok starts⟩) :
    requiredTypes types columns = ⟨notes, do
      let keys ← Failure.ofFault <|
        Graph.reachable byId.keys (references byId byName) starts.flatten
      sortByDependency (keys.filterMap byId.find?)⟩ := by
  rw [requiredTypes, hbyId, hbyName]
  simp only [Failure.ofFault, Except.mapError, Traced.lift_ok_bind, hcolumns, Traced.mapError,
    Traced.mk_ok_bind]
  unfold Table.keys
  cases Graph.reachable (byId.labels.map (·.key)) (references byId byName) starts.flatten with
  | error fault => exact congrArg (Traced.mk · _) (List.append_nil _)
  | ok keys => exact congrArg (Traced.mk · _) (List.append_nil _)

/-- The search ends on every catalog, with the keys that the columns lead to, once each. The
    types of these are sorted. -/
theorem requiredTypes_eq_reached (htypes : WellTyped types)
    (hbyId : tableBy (·.id) types = .ok byId)
    (hbyName : tableBy (·.name) types = .ok byName) {notes : List Diagnostic}
    {starts : List (List Json.Key)}
    (hcolumns : columns.mapM (formatIds byName) = ⟨notes, .ok starts⟩) :
    ∃ keys : List Json.Key, requiredTypes types columns =
        ⟨notes, sortByDependency (keys.filterMap byId.find?)⟩ ∧ keys.Nodup ∧
      ∀ key, key ∈ keys ↔
        Graph.Reached byId.keys (references byId byName) starts.flatten key := by
  rw [requiredTypes_eq_search hbyId hbyName hcolumns]
  have hreached := Graph.reachable_ends byId.keys (references byId byName) starts.flatten
  cases hkeys : Graph.reachable byId.keys (references byId byName) starts.flatten with
  | error fault =>
    obtain ⟨source, _, hfault⟩ := hreached.of_eq_error hkeys
    exact absurd hfault (error_notMem_references htypes hbyId)
  | ok keys => exact ⟨keys, rfl, hreached.of_eq_ok hkeys⟩

/-- The types of a list of distinct keys have distinct ids. -/
theorem nodup_found_ids (hbyId : tableBy (·.id) types = .ok byId) {keys : List Json.Key}
    (hnodup : keys.Nodup) (hfound : ∀ key ∈ keys, key ∈ byId.keys) :
    ((keys.filterMap byId.find?).map (·.id)).Nodup := by
  have hplaced : (placed byId keys).map Prod.snd = keys.filterMap byId.find? := by
    rw [placed, List.map_filterMap]
    exact List.filterMap_congr fun key _ => by cases byId.find? key <;> rfl
  rw [← hplaced, List.map_map]
  exact nodup_placed_ids hbyId hnodup hfound

/-- The types of a list of keys are found once each. -/
theorem found_types (htypes : WellTyped types) (hids : (types.map (·.id)).Nodup)
    (hbyId : tableBy (·.id) types = .ok byId) {keys : List Json.Key} (hnodup : keys.Nodup)
    (hfound : ∀ key ∈ keys, key ∈ byId.keys) :
    ((keys.filterMap byId.find?).map (·.id)).Nodup ∧ ∀ type,
      type ∈ keys.filterMap byId.find? ↔ type ∈ types ∧ ∃ key ∈ keys, type.id.key? = some key := by
  constructor
  · exact nodup_found_ids hbyId hnodup hfound
  · intro type
    simp only [List.mem_filterMap, find?_tableBy_of_nodup hbyId (htypes.nodup_ids hids)]
    constructor
    · rintro ⟨key, hkey, htype, htypeKey⟩
      exact ⟨htype, key, hkey, htypeKey⟩
    · rintro ⟨htype, key, hkey, htypeKey⟩
      exact ⟨key, hkey, htype, htypeKey⟩

/-- What is collected before it is sorted: the required types, once each. The notes are
    those of the columns, whatever comes of the sorting. -/
theorem requiredTypes_eq (htypes : WellTyped types) (hids : (types.map (·.id)).Nodup)
    (hnames : (types.map (·.name)).Nodup)
    (hformats : ∀ column ∈ columns, ∃ format, column.format = .text format) :
    ∃ required, requiredTypes types columns =
        ⟨(columns.filter (namesNone types)).map typeNotFound, sortByDependency required⟩ ∧
      (required.map (·.id)).Nodup ∧ ∀ type, type ∈ required ↔ Required types columns type := by
  obtain ⟨byId, hbyId⟩ := htypes.exists_tableBy_id
  obtain ⟨byName, hbyName⟩ := htypes.exists_tableBy_name
  have htext := format_eq_text hformats
  have hcolumns := formatIds_columns htext fun column hcolumn =>
    find?_isSome_eq htypes hnames hbyName (htext column hcolumn)
  obtain ⟨keys, heq, hnodup, hkeys⟩ := requiredTypes_eq_reached htypes hbyId hbyName hcolumns
  obtain ⟨hids', hmem⟩ := found_types htypes hids hbyId hnodup fun key hkey =>
    ((hkeys key).mp hkey).mem
  refine ⟨keys.filterMap byId.find?, heq, hids', fun type => ?_⟩
  rw [hmem]
  constructor
  · rintro ⟨htype, key, hkeyMem, hkey⟩
    obtain ⟨other, hrequired, hotherKey⟩ := required_of_reached htypes hids hnames hbyId
      hbyName htext ((hkeys key).mp hkeyMem)
    have hsame := htypes.eq_of_key?_eq hids htype hrequired.mem (hkey.trans hotherKey.symm)
    exact hsame ▸ hrequired
  · intro hrequired
    obtain ⟨key, hkey⟩ := htypes.exists_key hrequired.mem
    have hreached := reached_of_required htypes hids hnames hbyId hbyName htext hrequired hkey
    exact ⟨hrequired.mem, key, (hkeys key).mpr hreached, hkey⟩

/-- What is sorted for columns: exactly the required types, told apart by ids and by names. The
    notes are those of the columns, whatever comes of the sorting. -/
theorem exists_required (htypes : WellTyped types) (hids : (types.map (·.id)).Nodup)
    (hnames : (types.map (·.name)).Nodup)
    (hformats : ∀ column ∈ columns, ∃ format, column.format = .text format) :
    (requiredTypes types columns).trace = (columns.filter (namesNone types)).map typeNotFound ∧
      ∃ required, (requiredTypes types columns).outcome = sortByDependency required ∧
        WellTyped required ∧ (required.map (·.id)).Nodup ∧ (required.map (·.name)).Nodup ∧
        (· ∈ required) = Required types columns := by
  obtain ⟨required, heq, hids', hmem⟩ := requiredTypes_eq htypes hids hnames hformats
  have hsub : ∀ type ∈ required, type ∈ types := fun type h => ((hmem type).mp h).mem
  have hnames' : (required.map (·.name)).Nodup :=
    hids'.of_map.map_on fun type htype other hother =>
      List.inj_on_of_nodup_map hnames (hsub type htype) (hsub other hother)
  rw [heq]
  exact ⟨rfl, required, rfl, htypes.subset hsub, hids', hnames',
    funext fun type => propext (hmem type)⟩

/-- Collecting the types that columns need ends on every catalog, well below the depth
    of its search. It notes the columns that name no type, each with its format. It fails
    exactly if required types need each other in a circle, and then it names one of these;
    otherwise it gives each required type once and nothing else. -/
theorem requiredTypes_outcome (htypes : WellTyped types) (hids : (types.map (·.id)).Nodup)
    (hnames : (types.map (·.name)).Nodup)
    (hformats : ∀ column ∈ columns, ∃ format, column.format = .text format) :
    (∃ byId byName, tableBy (·.id) types = .ok byId ∧ tableBy (·.name) types = .ok byName ∧
      ∀ starts depth, byId.keys.length < depth →
        starts.foldlM (Graph.reach byId.keys (references byId byName) depth) [] =
          Graph.reachable byId.keys (references byId byName) starts) ∧
      (requiredTypes types columns).trace = (columns.filter (namesNone types)).map typeNotFound ∧
      (∀ column, (typeNotFound column).Says .warning "type_not_found" column.name
        [("table", column.table), ("format", column.format)]) ∧
      ((∃ failure, (requiredTypes types columns).outcome = .error failure) ↔
        ∃ type, TransGen (RefersWithin (Required types columns)) type type) ∧
      (∀ failure, (requiredTypes types columns).outcome = .error failure →
        ∃ type, TransGen (RefersWithin (Required types columns)) type type ∧
          failure = .problem (.circularDependency type.name .null []) ∧
          (Problem.circularDependency type.name .null []).NamesType "CIRCULAR_DEPENDENCY"
            ("Circular dependency detected involving type " ++ type.name.display) type.name) ∧
      ∀ sorted, (requiredTypes types columns).outcome = .ok sorted →
        (sorted.map (·.id)).Nodup ∧ ∀ type, type ∈ sorted ↔ Required types columns type := by
  obtain ⟨byId, hbyId⟩ := htypes.exists_tableBy_id
  obtain ⟨byName, hbyName⟩ := htypes.exists_tableBy_name
  obtain ⟨htrace, required, heq, htypes', hids', hnames', hwithin⟩ :=
    exists_required htypes hids hnames hformats
  refine ⟨⟨byId, byName, hbyId, hbyName, fun starts _ => Graph.reachable_depth_irrelevant⟩, htrace,
    says_typeNotFound, ?_⟩
  rw [heq, ← hwithin]
  refine ⟨sortByDependency_fails_iff_circle htypes' hids' hnames', fun failure hfailure => ?_,
    fun sorted hsorted => ?_⟩
  · obtain ⟨type, hcircle, hnamed⟩ :=
      exists_circle_of_sortByDependency htypes' hids' hnames' hfailure
    exact ⟨type, hcircle, hnamed, Problem.namesType_circularDependency type.name⟩
  obtain ⟨hsortedIds, hsortedMem⟩ := sortByDependency_types htypes'.ids hsorted
  refine ⟨hsortedIds, fun type => ?_⟩
  rw [hsortedMem, isLast_iff_mem hids']

def allNodes : Column := { tableId := .int 1, name := .text "all", format := .text "_node" }

/-- A column of lists needs both types of a circle, so its types cannot be sorted. -/
theorem requiredTypes_listNode_fails :
    WellTyped [listNode, listNodeArray] ∧
      ∃ failure, (requiredTypes [listNode, listNodeArray] [allNodes]).outcome = .error failure := by
  have htypes : WellTyped [listNode, listNodeArray] := by
    constructor <;> simp [listNode, listNodeArray, Json.key?]
  refine ⟨htypes, ?_⟩
  obtain ⟨_, _, _, hfails, _⟩ := requiredTypes_outcome htypes
    (by simp [listNode, listNodeArray]) (by simp [listNode, listNodeArray])
    (by simp [allNodes] : ∀ column ∈ [allNodes], ∃ format, column.format = .text format)
  have hforth : RefersTo listNode listNodeArray := .inl ⟨_, List.mem_cons_self, rfl⟩
  have hback : RefersTo listNodeArray listNode := .inr ⟨"node", rfl, rfl⟩
  have harray : Required [listNode, listNodeArray] [allNodes] listNodeArray :=
    .named List.mem_cons_self (by simp) rfl
  have hnode := harray.referred (by simp) hback
  exact hfails.mpr ⟨listNode, .tail
    (.single ⟨hnode, harray, by simp [listNode, listNodeArray], hforth⟩)
    ⟨harray, hnode, by simp [listNode, listNodeArray], hback⟩⟩

end DartModels.Catalog
