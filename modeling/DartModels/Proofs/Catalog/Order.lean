import DartModels.Proofs.Catalog.Arrangement
import DartModels.Proofs.Catalog.Reference
import DartModels.Proofs.Report.Contents

open Relation (TransGen)

namespace DartModels.Catalog

variable {types sorted : List CatalogType} {byId : Table CatalogType} {edges : Table (List Label)}

/-- One id of a list of types leads to another by an edge of the type graph. -/
def LeadsTo (types : List CatalogType) (edges : Table (List Label)) (source target : Json.Key) :
    Prop :=
  (∃ type ∈ types, type.id.key? = some source) ∧ (∃ type ∈ types, type.id.key? = some target) ∧
    target ∈ neededKeys edges source

/-- The graph that is searched has the ids of the list as its nodes. -/
theorem typeGraph_edge (hbyId : tableBy (·.id) types = .ok byId) (edges : Table (List Label)) :
    (typeGraph byId edges).Edge = LeadsTo types edges := by
  funext source target
  refine propext (and_congr (mem_keys_tableBy hbyId) (and_congr (mem_keys_tableBy hbyId) Iff.rfl))

theorem ofFault_eq_ok_iff {α : Type} {result : Except Fault α} {value : α} :
    Failure.ofFault result = .ok value ↔ result = .ok value := by
  cases result <;> simp [Failure.ofFault, Except.mapError]

/-- What is sorted is an arrangement of all keys as the search finds them. -/
theorem sortByDependency_eq_ok (hsorted : sortByDependency types = .ok sorted) :
    ∃ byId edges keys, tableBy (·.id) types = .ok byId ∧ dependencies types = .ok edges ∧
      (typeGraph byId edges).postorder = .ok keys ∧ sorted = arranged edges (placed byId keys) := by
  have hparts := hsorted
  obtain ⟨byId, hbyId, hparts⟩ := bind_eq_ok_iff.mp hparts
  obtain ⟨edges, hedges, _⟩ := bind_eq_ok_iff.mp hparts
  rw [ofFault_eq_ok_iff] at hbyId hedges
  rw [sortByDependency_eq hbyId hedges] at hsorted
  cases hkeys : (typeGraph byId edges).postorder with
  | error key => rw [hkeys] at hsorted; cases hsorted
  | ok keys =>
    rw [hkeys] at hsorted
    exact ⟨byId, edges, keys, hbyId, hedges, hkeys, (Except.ok.inj hsorted).symm⟩

/-- Where the search ends well, each key of the table stands once in its result and
    behind all keys that it leads to. -/
theorem postorder_keys {keys : List Json.Key}
    (hkeys : (typeGraph byId edges).postorder = .ok keys) :
    keys.Nodup ∧ (∀ key, key ∈ keys ↔ key ∈ byId.keys) ∧ (typeGraph byId edges).InOrder keys :=
  (typeGraph byId edges).postorder_ends.of_eq_ok hkeys

section

variable (hids : ∀ type ∈ types, ∃ id, type.id = .int id)
  (hbyId : tableBy (·.id) types = .ok byId) {keys : List Json.Key}
include hids hbyId

/-- The last type of an id is what the table has under it. -/
theorem isLast_iff_find? {type : CatalogType} :
    IsLast types type ↔ ∃ key, byId.find? key = some type := by
  simp only [find?_tableBy_eq_some_iff hbyId]
  constructor
  · rintro ⟨before, after, rfl, hlast⟩
    obtain ⟨id, hid⟩ := hids type (by simp)
    refine ⟨.number id 0, before, after, rfl, by simp [hid, Json.key?], fun later hlater heq => ?_⟩
    obtain ⟨laterId, hlaterId⟩ := hids later (by simp [hlater])
    refine hlast later hlater ?_
    simpa [hlaterId, hid, Json.key?] using heq
  · rintro ⟨key, before, after, rfl, hkey, hlast⟩
    exact ⟨before, after, rfl, fun later hlater heq => hlast later hlater (heq ▸ hkey)⟩

/-- The types of all keys are the last ones of their ids. -/
theorem mem_placed_values (hall : ∀ key, key ∈ keys ↔ key ∈ byId.keys) {type : CatalogType} :
    type ∈ (placed byId keys).map Prod.snd ↔ IsLast types type := by
  rw [isLast_iff_find? hids hbyId]
  constructor
  · intro hmem
    obtain ⟨⟨key, type⟩, hentry, rfl⟩ := List.mem_map.mp hmem
    exact ⟨key, (mem_placed.mp hentry).2⟩
  · rintro ⟨key, hfind⟩
    have hkey : key ∈ byId.keys := (byId.find?_isSome_iff key).mp (by simp [hfind])
    exact List.mem_map.mpr ⟨(key, type), mem_placed.mpr ⟨(hall key).mpr hkey, hfind⟩, rfl⟩

omit hids in
theorem nodup_placed_ids (hnodup : keys.Nodup) (hfound : ∀ key ∈ keys, key ∈ byId.keys) :
    ((placed byId keys).map fun entry => entry.2.id).Nodup := by
  have hkeys : (placed byId keys).map (fun entry => entry.2.id.key?) =
      ((placed byId keys).map Prod.fst).map some := by
    rw [List.map_map]
    refine List.map_congr_left fun entry hentry => ?_
    exact (mem_of_find?_tableBy hbyId (mem_placed.mp hentry).2).2
  refine List.Nodup.of_map Json.key? ?_
  rw [List.map_map]
  refine (congrArg List.Nodup hkeys).mpr ?_
  rw [placed_keys hfound]
  exact hnodup.map fun _ _ => Option.some.inj

end

/-- What is sorted has one type for each id, and that is the last one of the id. -/
theorem sortByDependency_types (hids : ∀ type ∈ types, ∃ id, type.id = .int id)
    (hsorted : sortByDependency types = .ok sorted) :
    (sorted.map (·.id)).Nodup ∧ ∀ type, type ∈ sorted ↔ IsLast types type := by
  obtain ⟨byId, edges, keys, hbyId, _, hkeys, rfl⟩ := sortByDependency_eq_ok hsorted
  obtain ⟨hnodup, hall, _⟩ := postorder_keys hkeys
  have hperm := arranged_perm edges (placed byId keys)
  constructor
  · rw [(hperm.map _).nodup_iff, List.map_map]
    exact nodup_placed_ids hbyId hnodup fun key => (hall key).mp
  · intro type
    rw [hperm.mem_iff, mem_placed_values hids hbyId hall]

/-- Where sorting fails it names the last type of an id that leads back to itself. -/
theorem sortByDependency_failure (htypes : WellTyped types)
    (hedges : dependencies types = .ok edges) {failure : Failure}
    (hfailed : sortByDependency types = .error failure) :
    ∃ key type, TransGen (LeadsTo types edges) key key ∧ IsLast types type ∧
      type.id.key? = some key ∧ failure = .problem (.circularDependency type.name .null []) := by
  obtain ⟨byId, hbyId⟩ := htypes.exists_tableBy_id
  rw [sortByDependency_eq hbyId hedges] at hfailed
  cases hkeys : (typeGraph byId edges).postorder with
  | ok keys => rw [hkeys] at hfailed; cases hfailed
  | error key =>
    have hcycle := (typeGraph byId edges).postorder_ends.of_eq_error hkeys
    rw [typeGraph_edge hbyId] at hcycle
    have hnode : key ∈ byId.keys := by
      obtain ⟨next, hleads, _⟩ := TransGen.head'_iff.mp hcycle
      exact (mem_keys_tableBy hbyId).mpr hleads.1
    obtain ⟨type, hfind⟩ := Option.isSome_iff_exists.mp ((byId.find?_isSome_iff key).mpr hnode)
    refine ⟨key, type, hcycle, (isLast_iff_find? htypes.ids hbyId).mpr ⟨key, hfind⟩,
      (mem_of_find?_tableBy hbyId hfind).2, ?_⟩
    simp only [hkeys, hfind, Option.map_some, Option.getD_some, Except.error.injEq] at hfailed
    exact hfailed.symm

theorem sortByDependency_fails_iff (htypes : WellTyped types)
    (hedges : dependencies types = .ok edges) :
    (∃ failure, sortByDependency types = .error failure) ↔
      ∃ key, TransGen (LeadsTo types edges) key key := by
  constructor
  · rintro ⟨failure, hfailed⟩
    obtain ⟨key, _, hcycle, _⟩ := sortByDependency_failure htypes hedges hfailed
    exact ⟨key, hcycle⟩
  · rintro ⟨key, hcycle⟩
    cases hresult : sortByDependency types with
    | error failure => exact ⟨failure, rfl⟩
    | ok sorted =>
      obtain ⟨byId, edges', keys, hbyId, hedges', hkeys, _⟩ := sortByDependency_eq_ok hresult
      cases hedges'.symm.trans hedges
      have hacyclic := (Graph.postorder_isOk_iff _).mp ⟨keys, hkeys⟩ key
      rw [typeGraph_edge hbyId] at hacyclic
      exact absurd hcycle hacyclic

/-- Sorting a list of types always ends, well below the depth of its search. It fails
    exactly if some id leads back to itself, and then it names a type with such an id;
    otherwise it gives the last type of each id and nothing else. -/
theorem sortByDependency_outcome (htypes : WellTyped types) :
    ∃ byId edges, tableBy (·.id) types = .ok byId ∧ dependencies types = .ok edges ∧
      (∀ depth, (typeGraph byId edges).nodes.length < depth →
        (typeGraph byId edges).nodes.foldlM ((typeGraph byId edges).finish depth []) [] =
          (typeGraph byId edges).postorder) ∧
      ((∃ failure, sortByDependency types = .error failure) ↔
        ∃ key, TransGen (LeadsTo types edges) key key) ∧
      (∀ failure, sortByDependency types = .error failure →
        ∃ key type, TransGen (LeadsTo types edges) key key ∧ IsLast types type ∧
          type.id.key? = some key ∧
          failure = .problem (.circularDependency type.name .null []) ∧
          (Problem.circularDependency type.name .null []).NamesType "CIRCULAR_DEPENDENCY"
            ("Circular dependency detected involving type " ++ type.name.display) type.name) ∧
      ∀ sorted, sortByDependency types = .ok sorted →
        (sorted.map (·.id)).Nodup ∧ ∀ type, type ∈ sorted ↔ IsLast types type := by
  obtain ⟨byId, hbyId⟩ := htypes.exists_tableBy_id
  obtain ⟨edges, hedges⟩ := htypes.exists_dependencies
  refine ⟨byId, edges, hbyId, hedges, fun _ => Graph.postorder_depth_irrelevant,
    sortByDependency_fails_iff htypes hedges, fun failure hfailure => ?_,
    fun _ => sortByDependency_types htypes.ids⟩
  obtain ⟨key, type, hcircle, hlast, hkey, hnamed⟩ :=
    sortByDependency_failure htypes hedges hfailure
  exact ⟨key, type, hcircle, hlast, hkey, hnamed, Problem.namesType_circularDependency type.name⟩

def listNode : CatalogType :=
  { id := .int 1, name := .text "node", attributes := [⟨.text "rest", .int 2⟩] }

def listNodeArray : CatalogType := { id := .int 2, name := .text "_node" }

/-- A type that holds an array of itself cannot be sorted, also where its id stands twice. -/
theorem sortByDependency_listNode_fails :
    WellTyped [listNodeArray, listNode, listNodeArray] ∧
      ∃ failure, sortByDependency [listNodeArray, listNode, listNodeArray] = .error failure := by
  have htypes : WellTyped [listNodeArray, listNode, listNodeArray] := by
    constructor <;> simp [listNode, listNodeArray, Json.key?]
  refine ⟨htypes, ?_⟩
  obtain ⟨byId, edges, _, hedges, _, hfails, _⟩ := sortByDependency_outcome htypes
  cases hedges
  refine hfails.mpr ⟨.number 1 0, ?_⟩
  have hnode : ∃ type ∈ [listNodeArray, listNode, listNodeArray],
      type.id.key? = some (.number 1 0) := ⟨listNode, by simp, rfl⟩
  have harray : ∃ type ∈ [listNodeArray, listNode, listNodeArray],
      type.id.key? = some (.number 2 0) := ⟨listNodeArray, by simp, rfl⟩
  exact .tail (.single ⟨hnode, harray, by decide⟩) ⟨harray, hnode, by decide⟩

/-- An array type that no type other than an array needs. These types come last. -/
def Trails (types : List CatalogType) (edges : Table (List Label)) (type : CatalogType) : Prop :=
  type.isArray ∧ ∀ user ∈ types, user.isArray = false → ¬ Needs edges user type

theorem trails_iff (hbyId : tableBy (·.id) types = .ok byId) {keys : List Json.Key}
    (hfind : ∀ key type, byId.find? key = some type ↔ type ∈ types ∧ type.id.key? = some key)
    (hall : ∀ key, key ∈ keys ↔ key ∈ byId.keys) {key : Json.Key} {type : CatalogType}
    (hkey : type.id.key? = some key) :
    trails edges (placed byId keys) (key, type) ↔ Trails types edges type := by
  have hplaced : ∀ key type,
      (key, type) ∈ placed byId keys ↔ type ∈ types ∧ type.id.key? = some key := by
    intro key type
    rw [mem_placed, hfind, hall, mem_keys_tableBy hbyId]
    exact ⟨And.right, fun h => ⟨⟨type, h.1, h.2⟩, h⟩⟩
  simp only [trails, Trails, Bool.and_eq_true, Bool.not_eq_true', List.contains_eq_mem,
    decide_eq_false_iff_not, List.mem_flatMap, List.mem_filter, Prod.exists, hplaced]
  refine and_congr_right fun _ => ?_
  constructor
  · rintro hfree user huser hplain ⟨source, target, hsource, htarget, hmem⟩
    cases hkey.symm.trans htarget
    exact hfree ⟨source, user, ⟨⟨huser, hsource⟩, by simp [hplain]⟩, hmem⟩
  · rintro hfree ⟨source, user, ⟨⟨huser, hsource⟩, hplain⟩, hmem⟩
    exact hfree user huser (by simpa using hplain) ⟨source, key, hsource, hkey, hmem⟩

/-- The search finds what a type needs before the type. -/
theorem placed_pair_sublist (hbyId : tableBy (·.id) types = .ok byId) {keys : List Json.Key}
    (hkeys : (typeGraph byId edges).postorder = .ok keys) {source target : Json.Key}
    {type needed : CatalogType} (hsource : byId.find? source = some type)
    (htarget : byId.find? target = some needed) (hmem : target ∈ neededKeys edges source) :
    [(target, needed), (source, type)].Sublist (placed byId keys) := by
  obtain ⟨_, hall, horder⟩ := postorder_keys hkeys
  have hnode : source ∈ keys :=
    (hall source).mpr ((byId.find?_isSome_iff source).mp (by simp [hsource]))
  have hedge : (typeGraph byId edges).Edge source target := by
    rw [typeGraph_edge hbyId]
    exact ⟨⟨type, mem_of_find?_tableBy hbyId hsource⟩, ⟨needed, mem_of_find?_tableBy hbyId htarget⟩,
      hmem⟩
  have h := (horder.pair_sublist hnode hedge).filterMap fun key =>
    (byId.find? key).map fun type => (key, type)
  simpa [placed, hsource, htarget] using h

/-- A needed type stands before the type that needs it, except where it is moved behind
    it: where it trails and the other one does not. -/
theorem sortByDependency_before_iff (hids : ∀ type ∈ types, ∃ id, type.id = .int id)
    (hdistinct : (types.map (·.id)).Nodup) (hedges : dependencies types = .ok edges)
    (hsorted : sortByDependency types = .ok sorted) {type needed : CatalogType}
    (htype : type ∈ types) (hneeded : needed ∈ types) (hneeds : Needs edges type needed) :
    [needed, type].Sublist sorted ↔ (Trails types edges needed → Trails types edges type) := by
  have hunique : sorted.Nodup := (sortByDependency_types hids hsorted).1.of_map
  have htypes := wellTyped_of_dependencies hids hedges
  obtain ⟨byId, edges', keys, hbyId, hedges', hkeys, rfl⟩ := sortByDependency_eq_ok hsorted
  cases hedges'.symm.trans hedges
  obtain ⟨_, hall, horder⟩ := postorder_keys hkeys
  obtain ⟨source, target, hsource, htarget, hmem⟩ := hneeds
  have hfind : ∀ key type, byId.find? key = some type ↔ type ∈ types ∧ type.id.key? = some key :=
    fun _ _ => find?_tableBy_of_nodup hbyId (htypes.nodup_ids hdistinct)
  have hfindSource := (hfind source type).mpr ⟨htype, hsource⟩
  have hfindTarget := (hfind target needed).mpr ⟨hneeded, htarget⟩
  have hnode : source ∈ keys :=
    (hall source).mpr ((byId.find?_isSome_iff source).mp (by simp [hfindSource]))
  have hedge : (typeGraph byId edges).Edge source target := by
    rw [typeGraph_edge hbyId]
    exact ⟨⟨type, htype, hsource⟩, ⟨needed, hneeded, htarget⟩, hmem⟩
  have hplaced : [(target, needed), (source, type)].Sublist (placed byId keys) := by
    have h := (horder.pair_sublist hnode hedge).filterMap fun key =>
      (byId.find? key).map fun type => (key, type)
    simpa [placed, hfindSource, hfindTarget] using h
  rw [← trails_iff hbyId hfind hall htarget, ← trails_iff hbyId hfind hall hsource]
  exact pair_sublist_arranged_iff hunique hplaced

def pointArray : CatalogType := { id := .int 1, name := .text "_point" }

def gridArray : CatalogType := { id := .int 2, name := .text "__point" }

def shape : CatalogType :=
  { id := .int 3, name := .text "shape", attributes := [⟨.text "corners", .int 2⟩] }

theorem trails_pointArray {edges : Table (List Label)}
    (hedges : dependencies [pointArray, gridArray, shape] = .ok edges) :
    Trails [pointArray, gridArray, shape] edges pointArray := by
  cases hedges
  refine ⟨by decide, fun user huser hplain ⟨source, target, hsource, htarget, hmem⟩ => ?_⟩
  simp only [List.mem_cons, List.not_mem_nil, or_false] at huser
  obtain rfl | rfl | rfl := huser
  · exact absurd hplain (by decide)
  · exact absurd hplain (by decide)
  · cases hsource
    cases htarget
    exact absurd hmem (by decide)

/-- The elements of an array that a plain type needs may come after it. -/
theorem not_pointArray_before_gridArray :
    ∃ edges sorted, dependencies [pointArray, gridArray, shape] = .ok edges ∧
      sortByDependency [pointArray, gridArray, shape] = .ok sorted ∧
      Needs edges gridArray pointArray ∧ ¬ [pointArray, gridArray].Sublist sorted := by
  refine ⟨_, _, rfl, rfl, ⟨_, _, rfl, rfl, by decide⟩, ?_⟩
  have hids : ∀ type ∈ [pointArray, gridArray, shape], ∃ id, type.id = .int id := by
    simp [pointArray, gridArray, shape]
  have hdistinct : ([pointArray, gridArray, shape].map (·.id)).Nodup := by
    simp [pointArray, gridArray, shape]
  rw [sortByDependency_before_iff hids hdistinct rfl rfl (by simp) (by simp)
    ⟨_, _, rfl, rfl, by decide⟩]
  intro h
  exact (h (trails_pointArray rfl)).2 shape (by simp) (by decide) ⟨_, _, rfl, rfl, by decide⟩

end DartModels.Catalog
