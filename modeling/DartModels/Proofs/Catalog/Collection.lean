import DartModels.Proofs.Catalog.Requirement

namespace DartModels.Catalog

variable {types sorted : List CatalogType} {columns : List Column}
  {byId byName : Table CatalogType}

theorem mapM_formatIds (byName : Table CatalogType)
    (hformats : ∀ column ∈ columns, ∃ format, column.format = .text format) :
    columns.mapM (formatIds byName) =
      ⟨columns.flatMap fun column =>
          if (byName.find? (.text column.format.spelling)).isSome then []
          else [typeNotFound column],
        .ok (columns.map fun column => namedKeys byName column.format.spelling)⟩ :=
  Traced.mapM_eq_of_ok fun column hcolumn => formatIds_eq (format_eq_text hformats column hcolumn)

/-- A key that is listed has a type, though it may be another one than that of which it is the
    key. -/
theorem exists_found_of_mem (hbyId : tableBy (·.id) types = .ok byId) {keys : List Json.Key}
    {key : Json.Key} (hmem : key ∈ keys) (hnode : key ∈ byId.keys) :
    ∃ found ∈ keys.filterMap byId.find?, found.id.key? = some key := by
  obtain ⟨found, hfound⟩ := Option.isSome_iff_exists.mp ((byId.find?_isSome_iff _).mpr hnode)
  exact ⟨found, List.mem_filterMap.mpr ⟨key, hmem, hfound⟩, (mem_of_find?_tableBy hbyId hfound).2⟩

/-- What is collected before it is sorted: types of distinct ids, those that formats name, and
    with each of them all those that its attributes refer to. Names may be shared, and so may
    ids in the list that is collected from. -/
theorem exists_collected (htypes : WellTyped types)
    (hformats : ∀ column ∈ columns, ∃ format, column.format = .text format) :
    ∃ collected, (requiredTypes types columns).outcome = sortByDependency collected ∧
      (∀ type ∈ collected, type ∈ types) ∧ (collected.map (·.id)).Nodup ∧
      (∀ type ∈ collected, ∀ part ∈ type.attributes, ∀ other ∈ types,
        other.id.key? = part.typeId.key? →
          ∃ found ∈ collected, found.id.key? = part.typeId.key?) ∧
      ∀ byName, tableBy (·.name) types = .ok byName → ∀ column ∈ columns, ∀ type,
        byName.find? (.text column.format.spelling) = some type →
          ∃ found ∈ collected, found.id.key? = type.id.key? := by
  obtain ⟨byId, hbyId⟩ := htypes.exists_tableBy_id
  obtain ⟨byName, hbyName⟩ := htypes.exists_tableBy_name
  obtain ⟨keys, heq, hnodup, hmem⟩ :=
    requiredTypes_eq_reached htypes hbyId hbyName (mapM_formatIds byName hformats)
  have hcollects : ∀ {key}, Graph.Reached byId.keys (references byId byName)
      (columns.map fun column => namedKeys byName column.format.spelling).flatten key →
      ∃ found ∈ keys.filterMap byId.find?, found.id.key? = some key :=
    fun hreached => exists_found_of_mem hbyId ((hmem _).mpr hreached) hreached.mem
  refine ⟨keys.filterMap byId.find?, congrArg Traced.outcome heq, ?_, ?_, ?_, ?_⟩
  · intro type htype
    obtain ⟨key, _, hfind⟩ := List.mem_filterMap.mp htype
    exact (mem_of_find?_tableBy hbyId hfind).1
  · exact nodup_found_ids hbyId hnodup fun key hkey => ((hmem key).mp hkey).mem
  · intro type htype part hpart other hother hkey
    obtain ⟨source, hsource, hfind⟩ := List.mem_filterMap.mp htype
    obtain ⟨target, htarget⟩ := htypes.exists_key hother
    obtain ⟨name, hname⟩ := htypes.names type (mem_of_find?_tableBy hbyId hfind).1
    have hstep : .ok target ∈ references byId byName source :=
      (mem_references_iff hfind hname).mpr
        (.inl ⟨part, hpart, map_label_eq_ok_iff.mpr (hkey.symm.trans htarget)⟩)
    obtain ⟨found, hfound, hfoundKey⟩ := hcollects (((hmem source).mp hsource).step hstep
      ((mem_keys_tableBy hbyId).mpr ⟨other, hother, htarget⟩))
    exact ⟨found, hfound, hfoundKey.trans (htarget.symm.trans hkey)⟩
  · intro names hnames column hcolumn type hfind
    cases hnames.symm.trans hbyName
    have htype := (mem_of_find?_tableBy hbyName hfind).1
    obtain ⟨key, hkey⟩ := htypes.exists_key htype
    have hnamed : key ∈ namedKeys byName column.format.spelling := by
      simp [namedKeys, hfind, hkey]
    obtain ⟨found, hfound, hfoundKey⟩ := hcollects
      (.start (List.mem_flatten.mpr ⟨_, List.mem_map_of_mem hcolumn, hnamed⟩)
        ((mem_keys_tableBy hbyId).mpr ⟨type, htype, hkey⟩))
    exact ⟨found, hfound, hfoundKey.trans hkey.symm⟩

/-- A type that is no array stands behind all that its attributes refer to: these are not
    moved behind it, even if they are arrays. -/
theorem pair_sublist_sorted_of_plain (htypes : WellTyped types) (hids : (types.map (·.id)).Nodup)
    (hsorted : sortByDependency types = .ok sorted) {type needed : CatalogType}
    (htype : type ∈ types) (hneeded : needed ∈ types) (hplain : type.isArray = false)
    {part : Attribute} (hpart : part ∈ type.attributes)
    (hrefers : part.typeId.key? = needed.id.key?) (hother : needed.id ≠ type.id) :
    [needed, type].Sublist sorted := by
  have hunique : sorted.Nodup := (sortByDependency_types htypes.ids hsorted).1.of_map
  obtain ⟨byName, hbyName⟩ := htypes.exists_tableBy_name
  obtain ⟨byId, edges, keys, hbyId, hedges, hkeys, rfl⟩ := sortByDependency_eq_ok hsorted
  obtain ⟨_, hall, _⟩ := postorder_keys hkeys
  obtain ⟨id, hid⟩ := htypes.ids type htype
  obtain ⟨otherId, hotherId⟩ := htypes.ids needed hneeded
  have hsource : type.id.key? = some (.number id 0) := by rw [hid]; rfl
  have htarget : needed.id.key? = some (.number otherId 0) := by rw [hotherId]; rfl
  have hfind : ∀ key type, byId.find? key = some type ↔ type ∈ types ∧ type.id.key? = some key :=
    fun _ _ => find?_tableBy_of_nodup hbyId (htypes.nodup_ids hids)
  have hfindSource := (hfind (.number id 0) type).mpr ⟨htype, hsource⟩
  have hfindTarget := (hfind (.number otherId 0) needed).mpr ⟨hneeded, htarget⟩
  have hmem : .number otherId 0 ∈ neededKeys edges (.number id 0) := by
    rw [mem_neededKeys_iff hbyName hedges hbyId hfindSource, exists_neededOf_iff hid]
    refine ⟨?_, .inl ⟨part, hpart, hrefers.trans htarget⟩⟩
    rw [hid, hotherId] at hother
    simpa using hother
  have hnode : .number id 0 ∈ keys :=
    (hall _).mpr ((byId.find?_isSome_iff _).mp (by simp [hfindSource]))
  have hplaced := placed_pair_sublist hbyId hkeys hfindSource hfindTarget hmem
  -- What a type that is no array needs is pinned, so it is not moved behind it.
  refine (pair_sublist_arranged_iff hunique hplaced).mpr fun htrails => ?_
  have hpinned : trails edges (placed byId keys) (.number otherId 0, needed) = false := by
    simp only [trails, Bool.and_eq_false_iff, Bool.not_eq_false', List.contains_eq_mem,
      decide_eq_true_eq, List.mem_flatMap, List.mem_filter]
    refine .inr ⟨_, ⟨mem_placed.mpr ⟨hnode, hfindSource⟩, ?_⟩, hmem⟩
    simp [hplain]
  exact absurd htrails (by simp [hpinned])

/-- What is collected is sorted into types of the list, of distinct ids. -/
theorem requiredTypes_subset (htypes : WellTyped types)
    (hformats : ∀ column ∈ columns, ∃ format, column.format = .text format)
    (hsorted : (requiredTypes types columns).outcome = .ok sorted) :
    (sorted.map (·.id)).Nodup ∧ ∀ type ∈ sorted, type ∈ types := by
  obtain ⟨collected, hcollected, hsub, _⟩ := exists_collected htypes hformats
  rw [hcollected] at hsorted
  obtain ⟨hids, hmem⟩ := sortByDependency_types (htypes.subset hsub).ids hsorted
  exact ⟨hids, fun type htype => hsub type ((hmem type).mp htype).mem⟩

/-- A type that the format of a column names is collected, though others may share its name. -/
theorem mem_requiredTypes_of_named (htypes : WellTyped types)
    (hids : (types.map (·.id)).Nodup)
    (hformats : ∀ column ∈ columns, ∃ format, column.format = .text format)
    (hsorted : (requiredTypes types columns).outcome = .ok sorted)
    (hbyName : tableBy (·.name) types = .ok byName) {column : Column} (hcolumn : column ∈ columns)
    {type : CatalogType} (hfind : byName.find? (.text column.format.spelling) = some type) :
    type ∈ sorted := by
  obtain ⟨collected, hcollected, hsub, hcollectedIds, _, hnamed⟩ :=
    exists_collected htypes hformats
  rw [hcollected] at hsorted
  obtain ⟨found, hfound, hkey⟩ := hnamed byName hbyName column hcolumn type hfind
  have htype := (mem_of_find?_tableBy hbyName hfind).1
  obtain rfl := htypes.eq_of_key?_eq hids (hsub found hfound) htype hkey
  rw [(sortByDependency_types (htypes.subset hsub).ids hsorted).2, isLast_iff_mem hcollectedIds]
  exact hfound

/-- A column whose format names no type is noted. -/
theorem typeNotFound_mem_trace (htypes : WellTyped types)
    (hformats : ∀ column ∈ columns, ∃ format, column.format = .text format)
    (hbyName : tableBy (·.name) types = .ok byName) {column : Column} (hcolumn : column ∈ columns)
    (hnone : byName.find? (.text column.format.spelling) = none) :
    typeNotFound column ∈ (requiredTypes types columns).trace := by
  obtain ⟨byId, hbyId⟩ := htypes.exists_tableBy_id
  rw [requiredTypes_eq_search hbyId hbyName (mapM_formatIds byName hformats)]
  exact List.mem_flatMap.mpr ⟨column, hcolumn, by simp [hnone]⟩

/-- Where ids and names tell types apart, exactly the required types are collected. -/
theorem mem_requiredTypes_iff (htypes : WellTyped types) (hids : (types.map (·.id)).Nodup)
    (hnames : (types.map (·.name)).Nodup)
    (hformats : ∀ column ∈ columns, ∃ format, column.format = .text format)
    (hsorted : (requiredTypes types columns).outcome = .ok sorted) {type : CatalogType} :
    type ∈ sorted ↔ Required types columns type := by
  obtain ⟨-, required, heq, htypes', hids', _, hwithin⟩ :=
    exists_required htypes hids hnames hformats
  rw [heq] at hsorted
  rw [(sortByDependency_types htypes'.ids hsorted).2, isLast_iff_mem hids', ← hwithin]

/-- A required type that is no array stands behind the types of its attributes, as far as the
    list has them. -/
theorem attribute_before_plain (htypes : WellTyped types)
    (hformats : ∀ column ∈ columns, ∃ format, column.format = .text format)
    (hsorted : (requiredTypes types columns).outcome = .ok sorted) {type other : CatalogType}
    (htype : type ∈ sorted) (hplain : type.isArray = false) {part : Attribute}
    (hpart : part ∈ type.attributes) (hother : other ∈ types)
    (hrefers : part.typeId.key? = other.id.key?) (hself : other.id ≠ type.id) :
    ∃ needed, needed.id = other.id ∧ [needed, type].Sublist sorted := by
  obtain ⟨collected, hcollected, hsub, hids, hclosed, _⟩ := exists_collected htypes hformats
  rw [hcollected] at hsorted
  have htypes' := htypes.subset hsub
  have hmem := (sortByDependency_types htypes'.ids hsorted).2
  have htypeMem : type ∈ collected := ((hmem type).mp htype).mem
  obtain ⟨needed, hneeded, hkey⟩ := hclosed type htypeMem part hpart other hother hrefers.symm
  have hid : needed.id = other.id :=
    (htypes.id_eq_iff (hsub needed hneeded) hother).mpr (hkey.trans hrefers)
  exact ⟨needed, hid, pair_sublist_sorted_of_plain htypes' hids hsorted htypeMem hneeded hplain
    hpart hkey.symm (hid ▸ hself)⟩

/-- Only a circle keeps types from being collected. -/
theorem requiredTypes_failure (htypes : WellTyped types)
    (hformats : ∀ column ∈ columns, ∃ format, column.format = .text format) {failure : Failure}
    (hfailed : (requiredTypes types columns).outcome = .error failure) :
    ∃ type ∈ types, failure = .problem (.circularDependency type.name .null []) := by
  obtain ⟨collected, hcollected, hsub, _⟩ := exists_collected htypes hformats
  rw [hcollected] at hfailed
  have htypes' := htypes.subset hsub
  obtain ⟨edges, hedges⟩ := htypes'.exists_dependencies
  obtain ⟨_, type, _, hlast, _, rfl⟩ := sortByDependency_failure htypes' hedges hfailed
  exact ⟨type, hsub type hlast.mem, rfl⟩

end DartModels.Catalog
