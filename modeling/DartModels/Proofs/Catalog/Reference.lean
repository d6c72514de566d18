import DartModels.Proofs.Catalog.Lookup

namespace DartModels.Catalog

/-- The first name is that of the array type with elements of the type of the second
    name. -/
def IsArrayOf (array element : Json) : Prop :=
  ∃ name, element = .text name ∧ array = .text ("_" ++ name)

/-- One type refers to another: as the type of an attribute, or as the element type of
    an array type. -/
def RefersTo (type other : CatalogType) : Prop :=
  (∃ part ∈ type.attributes, part.typeId.key? = other.id.key?) ∨ IsArrayOf type.name other.name

theorem toList_mark_append (name : String) : ("_" ++ name).toList = '_' :: name.toList := by
  rw [String.toList_append]
  rfl

theorem isArrayName_iff {name : String} : isArrayName name ↔ ∃ element, name = "_" ++ element := by
  constructor
  · intro h
    cases hname : name.toList with
    | nil => simp [isArrayName, hname] at h
    | cons c rest =>
      have hc : c = '_' := by simpa [isArrayName, hname] using h
      refine ⟨String.ofList rest, String.toList_inj.mp ?_⟩
      rw [toList_mark_append, String.toList_ofList, hname, hc]
  · rintro ⟨element, rfl⟩
    simp [isArrayName]

theorem baseName_mark_append (element : String) : baseName ("_" ++ element) = element := by
  rw [baseName, toList_mark_append]
  exact String.ofList_toList

theorem isArrayOf_text_iff {array element : String} :
    IsArrayOf (.text array) (.text element) ↔ isArrayName array ∧ baseName array = element := by
  constructor
  · rintro ⟨name, hname, harray⟩
    cases hname
    cases harray
    exact ⟨isArrayName_iff.mpr ⟨element, rfl⟩, baseName_mark_append element⟩
  · rintro ⟨harray, rfl⟩
    obtain ⟨element, rfl⟩ := isArrayName_iff.mp harray
    rw [baseName_mark_append]
    exact ⟨element, rfl, rfl⟩

/-- Equality with a whole number is equality of keys. -/
theorem equals_int (value : Json) (number : Int) :
    value.equals (.int number) = (value.key? == some (.number number 0)) := by
  cases value with
  | float x => cases x <;> simp [Json.equals, Json.same, Json.key?, Json.Key.ofBinary64]
  | _ => simp [Json.equals, Json.same, Json.key?]

theorem key?_eq_null_iff {value : Json} : value.key? = some .null ↔ value = .null := by
  cases value with
  | float x => cases x <;> simp [Json.key?, Json.Key.ofBinary64]
  | _ => simp [Json.key?]

/-- The id of the element type of an array type. -/
def elementIds (byName : Table CatalogType) (type : CatalogType) : List Json :=
  if isArrayName type.name.spelling then
    ((byName.find? (.text (baseName type.name.spelling))).map (·.id)).toList
  else []

/-- The ids that a type needs before it. -/
def neededOf (byName : Table CatalogType) (type : CatalogType) : List Json :=
  (type.attributes.map (·.typeId)).filter (fun id => !id.equals type.id) ++
    (elementIds byName type).filter fun id => id.key? != some .null && !id.equals type.id

theorem mem_neededOf_iff {byName : Table CatalogType} {type : CatalogType} {number : Int}
    (hid : type.id = .int number) {id : Json} :
    id ∈ neededOf byName type ↔ id.key? ≠ some (.number number 0) ∧
      ((∃ part ∈ type.attributes, part.typeId = id) ∨
        id.key? ≠ some .null ∧ id ∈ elementIds byName type) := by
  simp only [neededOf, hid, equals_int, List.mem_append, List.mem_filter, List.mem_map,
    Bool.and_eq_true, Bool.not_eq_true', beq_eq_false_iff_ne, bne_iff_ne]
  constructor
  · rintro (⟨hpart, hself⟩ | ⟨helement, hnull, hself⟩)
    · exact ⟨hself, .inl hpart⟩
    · exact ⟨hself, .inr ⟨hnull, helement⟩⟩
  · rintro ⟨hself, hpart | ⟨hnull, helement⟩⟩
    · exact .inl ⟨hpart, hself⟩
    · exact .inr ⟨helement, hnull, hself⟩

theorem neededIds_eq_ok_iff {byName : Table CatalogType} {type : CatalogType} {ids : List Json} :
    neededIds byName type = .ok ids ↔ type.name.isText ∧ neededOf byName type = ids := by
  unfold neededIds neededOf elementIds
  cases type.name with
  | text name =>
    simp only [markedName, ok_bind, Json.spelling, Json.isText, true_and]
    by_cases harray : isArrayName name
    · simp only [harray, if_true]
      cases byName.find? (.text (baseName name)) with
      | none => simp
      | some element =>
        simp only [Option.map_some, Option.toList_some, List.filter_singleton]
        split
        · next hnull => simp [hnull, Json.key?]
        · next hnull =>
          have hkey : (element.id.key? != some .null) = true :=
            bne_iff_ne.mpr fun h => hnull (key?_eq_null_iff.mp h)
          by_cases hself : element.id.equals type.id <;> simp [hkey, hself]
    · simp [harray]
  | _ => simp [markedName, Json.isText]

/-- What a type needs, under the label of the type. -/
def edgeOf (byName : Table CatalogType) (type : CatalogType) : Label × List Label :=
  (labelOf type.id, distinctLabels ((neededOf byName type).map labelOf))

/-- The edges of the type graph can be made exactly of types with texts as names whose
    ids and needs all have a key. -/
theorem dependencies_eq_ok_iff {types : List CatalogType} {edges : Table (List Label)} :
    dependencies types = .ok edges ↔ ∃ byName, tableBy (·.name) types = .ok byName ∧
      (∀ type ∈ types, type.name.isText ∧ (∀ id ∈ neededOf byName type, id.key?.isSome) ∧
        type.id.key?.isSome) ∧
      Table.ofList (types.map (edgeOf byName)) = edges := by
  have hlabels : ∀ (ids : List Json) (labels : List Label), ids.mapM label = .ok labels ↔
      (∀ id ∈ ids, id.key?.isSome) ∧ ids.map labelOf = labels := fun _ _ =>
    mapM_eq_ok_map_iff label_eq_ok_iff
  have hstep : ∀ byName type entry,
      (do
        let needed ← (← neededIds byName type).mapM label
        return (← label type.id, distinctLabels needed) : Except Fault (Label × List Label)) =
          .ok entry ↔
        (type.name.isText ∧ (∀ id ∈ neededOf byName type, id.key?.isSome) ∧ type.id.key?.isSome) ∧
          edgeOf byName type = entry := by
    intro byName type entry
    simp only [bind_eq_ok_iff, neededIds_eq_ok_iff, hlabels, label_eq_ok_iff, pure_eq_ok,
      Except.ok.injEq]
    constructor
    · rintro ⟨_, ⟨htext, rfl⟩, _, ⟨hneeded, rfl⟩, _, ⟨hid, rfl⟩, rfl⟩
      exact ⟨⟨htext, hneeded, hid⟩, rfl⟩
    · rintro ⟨⟨htext, hneeded, hid⟩, rfl⟩
      exact ⟨_, ⟨htext, rfl⟩, _, ⟨hneeded, rfl⟩, _, ⟨hid, rfl⟩, rfl⟩
  constructor
  · intro h
    obtain ⟨byName, hbyName, h⟩ := bind_eq_ok_iff.mp h
    obtain ⟨entries, hentries, heq⟩ := bind_eq_ok_iff.mp h
    obtain ⟨hgood, rfl⟩ := (mapM_eq_ok_map_iff (hstep byName)).mp hentries
    cases heq
    exact ⟨byName, hbyName, hgood, rfl⟩
  · rintro ⟨byName, hbyName, hgood, rfl⟩
    refine bind_eq_ok_iff.mpr ⟨byName, hbyName, ?_⟩
    exact bind_eq_ok_iff.mpr ⟨_, (mapM_eq_ok_map_iff (hstep byName)).mpr ⟨hgood, rfl⟩, rfl⟩

theorem mem_elementIds_iff {byName : Table CatalogType} {type : CatalogType} {name : String}
    (hname : type.name = .text name) {id : Json} :
    id ∈ elementIds byName type ↔ isArrayName name ∧
      ∃ element, byName.find? (.text (baseName name)) = some element ∧ element.id = id := by
  by_cases harray : isArrayName name <;> simp [elementIds, hname, Json.spelling, harray]

/-- Types as the database gives them always have edges. -/
theorem WellTyped.exists_dependencies {types : List CatalogType} (htypes : WellTyped types) :
    ∃ edges, dependencies types = .ok edges := by
  obtain ⟨byName, hbyName⟩ := htypes.exists_tableBy_name
  refine ⟨_, dependencies_eq_ok_iff.mpr ⟨byName, hbyName, fun type htype => ⟨?_, ?_, ?_⟩, rfl⟩⟩
  · obtain ⟨name, hname⟩ := htypes.names type htype
    simp [hname, Json.isText]
  · intro id hid
    rcases List.mem_append.mp hid with hid | hid
    · obtain ⟨part, hpart, rfl⟩ := List.mem_map.mp (List.mem_filter.mp hid).1
      exact htypes.parts type htype part hpart
    · obtain ⟨name, hname⟩ := htypes.names type htype
      obtain ⟨_, element, hfind, rfl⟩ := (mem_elementIds_iff hname).mp (List.mem_filter.mp hid).1
      exact htypes.isSome_key? (mem_of_find?_tableBy hbyName hfind).1
  · exact htypes.isSome_key? htype

/-- Types with whole numbers as ids have edges only if they are as the database gives
    them. -/
theorem wellTyped_of_dependencies {types : List CatalogType} {edges : Table (List Label)}
    (hids : ∀ type ∈ types, ∃ id, type.id = .int id) (hedges : dependencies types = .ok edges) :
    WellTyped types := by
  obtain ⟨byName, _, hgood, _⟩ := dependencies_eq_ok_iff.mp hedges
  refine ⟨hids, fun type htype => ?_, fun type htype part hpart => ?_⟩
  · have htext := (hgood type htype).1
    cases hname : type.name with
    | text name => exact ⟨name, rfl⟩
    | _ => simp [hname, Json.isText] at htext
  · obtain ⟨id, hid⟩ := hids type htype
    by_cases hself : part.typeId.key? = some (.number id 0)
    · simp [hself]
    · exact (hgood type htype).2.1 _ ((mem_neededOf_iff hid).mpr ⟨hself, .inl ⟨part, hpart, rfl⟩⟩)

/-- One type needs another: the edges lead from its id to that of the other. -/
def Needs (edges : Table (List Label)) (type needed : CatalogType) : Prop :=
  ∃ source target, type.id.key? = some source ∧ needed.id.key? = some target ∧
    target ∈ neededKeys edges source

theorem mem_keys_distinctLabels {labels : List Label} {key : Json.Key} :
    key ∈ (distinctLabels labels).map (·.key) ↔ ∃ label ∈ labels, label.key = key := by
  change key ∈ (Table.ofList (labels.map fun label => (label, ()))).keys ↔ _
  simp [Table.mem_keys_ofList]

/-- The keys that the edges give for an id are those that its last type needs. -/
theorem mem_neededKeys_iff {types : List CatalogType} {byName : Table CatalogType}
    {edges : Table (List Label)} (hbyName : tableBy (·.name) types = .ok byName)
    (hedges : dependencies types = .ok edges) {byId : Table CatalogType}
    (hbyId : tableBy (·.id) types = .ok byId) {type : CatalogType} {source target : Json.Key}
    (hfind : byId.find? source = some type) :
    target ∈ neededKeys edges source ↔ ∃ id ∈ neededOf byName type, id.key? = some target := by
  obtain ⟨names, hnames, hgood, rfl⟩ := dependencies_eq_ok_iff.mp hedges
  obtain rfl : names = byName := Except.ok.inj (hnames.symm.trans hbyName)
  have hmem := (mem_of_find?_tableBy hbyId hfind).1
  rw [find?_tableBy hbyId] at hfind
  unfold neededKeys edgeOf
  rw [find?_ofList_labelOf (fun type htype => (hgood type htype).2.2), hfind, Option.map_some,
    Option.getD_some, mem_keys_distinctLabels]
  simp only [List.mem_map, exists_exists_and_eq_and]
  refine exists_congr fun id => and_congr_right fun hid => ?_
  obtain ⟨key, hkey⟩ := Option.isSome_iff_exists.mp ((hgood type hmem).2.1 id hid)
  simp [labelOf, hkey]

/-- The keys of what a type needs: those of its attributes and of its elements, apart
    from its own. -/
theorem exists_neededOf_iff {byName : Table CatalogType} {type : CatalogType} {number : Int}
    (hid : type.id = .int number) {target : Json.Key} :
    (∃ id ∈ neededOf byName type, id.key? = some target) ↔ target ≠ .number number 0 ∧
      ((∃ part ∈ type.attributes, part.typeId.key? = some target) ∨
        target ≠ .null ∧ ∃ id ∈ elementIds byName type, id.key? = some target) := by
  simp only [mem_neededOf_iff hid]
  constructor
  · rintro ⟨id, ⟨hself, hneeded⟩, hkey⟩
    rw [hkey, ne_eq, Option.some.injEq] at hself
    refine ⟨hself, ?_⟩
    rcases hneeded with ⟨part, hpart, rfl⟩ | ⟨hnull, helement⟩
    · exact .inl ⟨part, hpart, hkey⟩
    · exact .inr ⟨by simpa [hkey] using hnull, id, helement, hkey⟩
  · rintro ⟨hself, ⟨part, hpart, hkey⟩ | ⟨hnull, id, helement, hkey⟩⟩
    · exact ⟨part.typeId, ⟨by simpa [hkey] using hself, .inl ⟨part, hpart, rfl⟩⟩, hkey⟩
    · exact ⟨id, ⟨by simpa [hkey] using hself, .inr ⟨by simpa [hkey] using hnull, helement⟩⟩, hkey⟩

section

variable {types : List CatalogType} (htypes : WellTyped types) (hids : (types.map (·.id)).Nodup)
  (hnames : (types.map (·.name)).Nodup)
include htypes hids hnames

/-- What is found under the rest of an array's name is the type of its elements. -/
theorem finds_element_iff {byName : Table CatalogType}
    (hbyName : tableBy (·.name) types = .ok byName) {name : String} {other : CatalogType}
    (hother : other ∈ types) {target : Json.Key} (htarget : other.id.key? = some target) :
    (isArrayName name ∧ ∃ element, byName.find? (.text (baseName name)) = some element ∧
      element.id.key? = some target) ↔ IsArrayOf (.text name) other.name := by
  obtain ⟨otherName, hotherName⟩ := htypes.names other hother
  simp only [htypes.find?_name_iff hnames hbyName]
  rw [hotherName, isArrayOf_text_iff]
  refine and_congr_right fun _ => ?_
  constructor
  · rintro ⟨element, ⟨helement, hbase⟩, hkey⟩
    have hsame := htypes.eq_of_key?_eq hids helement hother (hkey.trans htarget.symm)
    rw [hsame, hotherName] at hbase
    exact (Json.text.inj hbase).symm
  · rintro hbase
    exact ⟨other, ⟨hother, by rw [hotherName, hbase]⟩, htarget⟩

/-- Where ids and names are distinct, a type needs exactly the other types that it
    refers to. -/
theorem needs_iff {edges : Table (List Label)} (hedges : dependencies types = .ok edges)
    {type other : CatalogType} (htype : type ∈ types) (hother : other ∈ types) :
    Needs edges type other ↔ other.id ≠ type.id ∧ RefersTo type other := by
  obtain ⟨byId, hbyId⟩ := htypes.exists_tableBy_id
  obtain ⟨byName, hbyName⟩ := htypes.exists_tableBy_name
  obtain ⟨name, hname⟩ := htypes.names type htype
  obtain ⟨id, hid⟩ := htypes.ids type htype
  obtain ⟨otherId, hotherId⟩ := htypes.ids other hother
  have hsource : type.id.key? = some (.number id 0) := by rw [hid]; rfl
  have htarget : other.id.key? = some (.number otherId 0) := by rw [hotherId]; rfl
  have hfind : byId.find? (.number id 0) = some type :=
    (find?_tableBy_of_nodup hbyId (htypes.nodup_ids hids)).mpr ⟨htype, hsource⟩
  have hneeds : Needs edges type other ↔ .number otherId 0 ∈ neededKeys edges (.number id 0) := by
    simp [Needs, hsource, htarget]
  have helement : (∃ element ∈ elementIds byName type, element.key? = some (.number otherId 0)) ↔
      IsArrayOf type.name other.name := by
    rw [hname, ← finds_element_iff htypes hids hnames hbyName hother htarget]
    simp [mem_elementIds_iff hname, and_assoc]
  rw [hneeds, mem_neededKeys_iff hbyName hedges hbyId hfind, exists_neededOf_iff hid, helement,
    RefersTo, htarget, hid, hotherId]
  simp

end

end DartModels.Catalog
