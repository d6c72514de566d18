import DartModels.Proofs.Catalog.Order

namespace DartModels.Catalog

/-- In a list without repetition two elements stand in one order only. -/
theorem not_pair_sublist_swap {α : Type} {xs : List α} {x y : α} (hnodup : xs.Nodup)
    (h : [x, y].Sublist xs) : ¬[y, x].Sublist xs := by
  intro hswap
  obtain ⟨before, after, rfl⟩ := List.append_of_mem (h.subset (by simp : y ∈ [x, y]))
  have hx := (pair_sublist_iff_mem hnodup).mp h
  obtain ⟨first, middle, rfl⟩ := List.append_of_mem hx
  rw [List.append_assoc, List.cons_append] at hnodup hswap
  have hy := (pair_sublist_iff_mem hnodup).mp hswap
  exact (List.nodup_append.mp hnodup).2.2 y hy y (by simp) rfl

/-- Where all that follows an element with a property has it too, the elements with the
    property stand behind the rest already. -/
theorem filter_not_append_filter {α : Type} {p : α → Bool} {xs : List α}
    (h : xs.Pairwise fun x y => p x → p y) : xs.filter (!p ·) ++ xs.filter p = xs := by
  induction xs with
  | nil => rfl
  | cons x xs ih =>
    obtain ⟨hx, hrest⟩ := List.pairwise_cons.mp h
    cases hp : p x with
    | false => simp [hp, ih hrest]
    | true =>
      have hall : ∀ y ∈ xs, p y = true := fun y hy => hx y hy hp
      have hnone : xs.filter (!p ·) = [] := by simpa using hall
      rw [List.filter_cons_of_neg (by simp [hp]), List.filter_cons_of_pos hp, hnone,
        List.filter_eq_self.mpr hall, List.nil_append]

variable {types : List CatalogType} {byId : Table CatalogType} {edges : Table (List Label)}

/-- The key of a type's id. -/
def idKey (type : CatalogType) : Json.Key :=
  (labelOf type.id).key

/-- The types of a list under the keys of their ids. -/
def underIds (types : List CatalogType) : List (Json.Key × CatalogType) :=
  types.map fun type => (idKey type, type)

theorem map_snd_underIds (types : List CatalogType) : (underIds types).map Prod.snd = types := by
  rw [underIds, List.map_map]
  exact List.map_id types

section

variable (htypes : WellTyped types)
include htypes

theorem key?_id_eq {type : CatalogType} (htype : type ∈ types) :
    type.id.key? = some (idKey type) := by
  obtain ⟨id, hid⟩ := htypes.ids type htype
  rw [idKey, hid]
  rfl

theorem needs_iff_mem {type needed : CatalogType} (htype : type ∈ types)
    (hneeded : needed ∈ types) :
    Needs edges type needed ↔ idKey needed ∈ neededKeys edges (idKey type) := by
  simp [Needs, key?_id_eq htypes htype, key?_id_eq htypes hneeded]

variable (hdistinct : (types.map (·.id)).Nodup)
include hdistinct

theorem nodup_idKeys : (types.map idKey).Nodup := by
  have hkeys := htypes.nodup_ids hdistinct
  rw [List.map_congr_left fun type htype => key?_id_eq htypes htype] at hkeys
  apply List.Nodup.of_map some
  rwa [List.map_map]

variable (hbyId : tableBy (·.id) types = .ok byId)
include hbyId

/-- The table of distinct ids keeps the order of the types. -/
theorem keys_byId : byId.keys = types.map idKey := by
  obtain ⟨_, rfl⟩ := tableBy_eq_ok_iff.mp hbyId
  have hkeys := nodup_idKeys htypes hdistinct
  rw [Table.keys_eq, Table.entries_ofList, List.map_map]
  · rfl
  · rwa [List.map_map]

theorem placed_idKeys : placed byId (types.map idKey) = underIds types := by
  rw [placed, List.filterMap_map, underIds, ← List.filterMap_eq_map]
  apply List.filterMap_congr
  intro type htype
  have hfound : byId.find? (idKey type) = some type :=
    (find?_tableBy_of_nodup hbyId (htypes.nodup_ids hdistinct)).mpr
      ⟨htype, key?_id_eq htypes htype⟩
  simp [hfound]

theorem trails_underIds_iff {type : CatalogType} (htype : type ∈ types) :
    trails edges (underIds types) (idKey type, type) ↔ Trails types edges type := by
  rw [← placed_idKeys htypes hdistinct hbyId]
  apply trails_iff hbyId
  · exact fun _ _ => find?_tableBy_of_nodup hbyId (htypes.nodup_ids hdistinct)
  · intro key
    rw [keys_byId htypes hdistinct hbyId]
  · exact key?_id_eq htypes htype

end

section

variable (htypes : WellTyped types) (hdistinct : (types.map (·.id)).Nodup)
  (hbyId : tableBy (·.id) types = .ok byId) (hordered : ∀ type ∈ types, ∀ needed ∈ types,
    Needs edges type needed → [needed, type].Sublist types)
include htypes hdistinct hbyId hordered

/-- The graph of types that stand behind what they need is in order. -/
theorem inOrder_idKeys : (typeGraph byId edges).InOrder (types.map idKey) := by
  intro before node after hsplit target hedge
  obtain ⟨front, back, rfl, rfl, hback⟩ := List.map_eq_append_iff.mp hsplit
  obtain ⟨type, rest, rfl, rfl, rfl⟩ := List.map_eq_cons_iff.mp hback
  rw [typeGraph_edge hbyId] at hedge
  obtain ⟨_, ⟨needed, hneeded, hkey⟩, hmem⟩ := hedge
  rw [key?_id_eq htypes hneeded, Option.some.injEq] at hkey
  subst hkey
  have hpair := hordered type (by simp) needed hneeded
    ((needs_iff_mem htypes (by simp) hneeded).mpr hmem)
  exact List.mem_map_of_mem ((pair_sublist_iff_mem hdistinct.of_map).mp hpair)

/-- Where each type stands behind what it needs, the search keeps the order. What is left to do
    is to put last what trails. -/
theorem sortByDependency_of_ordered (hedges : dependencies types = .ok edges) :
    sortByDependency types = .ok (arranged edges (underIds types)) := by
  have hnodes : (typeGraph byId edges).nodes = types.map idKey :=
    keys_byId htypes hdistinct hbyId
  have hsearch : (typeGraph byId edges).postorder = .ok (types.map idKey) := by
    rw [← hnodes]
    apply Graph.postorder_of_inOrder
    · rw [hnodes]
      exact nodup_idKeys htypes hdistinct
    · rw [hnodes]
      exact inOrder_idKeys htypes hdistinct hbyId hordered
  rw [sortByDependency_eq hbyId hedges, hsearch]
  simp only [placed_idKeys htypes hdistinct hbyId]

end

/-- Sorting types that stand behind what they need moves nothing but what trails: of two types
    the first one comes behind the other only if it trails and the other does not. So a list in
    which what trails comes last is left as it is. -/
theorem sortByDependency_stable (hids : ∀ type ∈ types, ∃ id, type.id = .int id)
    (hdistinct : (types.map (·.id)).Nodup) (hedges : dependencies types = .ok edges)
    (hordered : ∀ type ∈ types, ∀ needed ∈ types, Needs edges type needed →
      [needed, type].Sublist types) :
    (∃ sorted, sortByDependency types = .ok sorted ∧ sorted.Perm types ∧
      ∀ first second, [first, second].Sublist types →
        ([first, second].Sublist sorted ↔
          (Trails types edges first → Trails types edges second))) ∧
    ((∀ type ∈ types, ∀ other ∈ types, Trails types edges type → ¬Trails types edges other →
      [other, type].Sublist types) → sortByDependency types = .ok types) := by
  have htypes := wellTyped_of_dependencies hids hedges
  obtain ⟨byId, hbyId⟩ := htypes.exists_tableBy_id
  have htrails (type : CatalogType) (htype : type ∈ types) :
      trails edges (underIds types) (idKey type, type) ↔ Trails types edges type :=
    trails_underIds_iff htypes hdistinct hbyId htype
  have hperm := arranged_perm edges (underIds types)
  rw [map_snd_underIds] at hperm
  rw [sortByDependency_of_ordered htypes hdistinct hbyId hordered hedges]
  constructor
  · refine ⟨_, rfl, hperm, fun first second hpair => ?_⟩
    rw [← htrails first (hpair.subset (by simp)), ← htrails second (hpair.subset (by simp))]
    have hunique : (arranged edges (underIds types)).Nodup := hperm.nodup_iff.mpr hdistinct.of_map
    have hkeyed : [(idKey first, first), (idKey second, second)].Sublist (underIds types) :=
      hpair.map fun type => (idKey type, type)
    exact pair_sublist_arranged_iff hunique hkeyed
  · intro hlast
    have hbehind : (underIds types).Pairwise fun first second =>
        trails edges (underIds types) first → trails edges (underIds types) second := by
      rw [underIds, List.pairwise_map, List.pairwise_iff_forall_sublist]
      intro first second hpair hfirst
      have hfirstMem := hpair.subset (List.mem_cons_self (a := first))
      have hsecondMem : second ∈ types := hpair.subset (by simp)
      rw [← underIds, htrails first hfirstMem] at hfirst
      rw [← underIds, htrails second hsecondMem]
      by_contra hsecond
      exact not_pair_sublist_swap hdistinct.of_map hpair
        (hlast first hfirstMem second hsecondMem hfirst hsecond)
    rw [arranged, filter_not_append_filter hbehind, map_snd_underIds]

def stop : CatalogType := { id := .int 1, name := .text "stop" }

def stopArray : CatalogType := { id := .int 2, name := .text "_stop" }

def route : CatalogType :=
  { id := .int 3, name := .text "route", attributes := [⟨.text "stops", .int 2⟩] }

def routeArray : CatalogType := { id := .int 4, name := .text "_route" }

def journeys : List CatalogType := [stop, stopArray, route, routeArray]

/-- Types in order stay where they are, among them an array type that a plain type needs. -/
theorem sortByDependency_journeys :
    (∀ type ∈ journeys, ∃ id, type.id = .int id) ∧ (journeys.map (·.id)).Nodup ∧
      ∃ edges, dependencies journeys = .ok edges ∧
        (∀ type ∈ journeys, ∀ needed ∈ journeys, Needs edges type needed →
          [needed, type].Sublist journeys) ∧
        (∀ type ∈ journeys, ∀ other ∈ journeys, Trails journeys edges type →
          ¬Trails journeys edges other → [other, type].Sublist journeys) ∧
        Needs edges route stopArray ∧ sortByDependency journeys = .ok journeys := by
  have hids : ∀ type ∈ journeys, ∃ id, type.id = .int id := by
    simp [journeys, stop, stopArray, route, routeArray]
  have hdistinct : (journeys.map (·.id)).Nodup := by
    simp [journeys, stop, stopArray, route, routeArray]
  obtain ⟨edges, hedges, hkeys⟩ : ∃ edges, dependencies journeys = .ok edges ∧
      neededKeys edges (.number 1 0) = [] ∧ neededKeys edges (.number 2 0) = [.number 1 0] ∧
      neededKeys edges (.number 3 0) = [.number 2 0] ∧
      neededKeys edges (.number 4 0) = [.number 3 0] := ⟨_, rfl, rfl, rfl, rfl, rfl⟩
  have hneeds : Needs edges route stopArray := ⟨_, _, rfl, rfl, by simp [hkeys]⟩
  have hordered : ∀ type ∈ journeys, ∀ needed ∈ journeys, Needs edges type needed →
      [needed, type].Sublist journeys := by
    rintro type htype needed hneeded ⟨source, target, hsource, htarget, hmem⟩
    simp only [journeys, List.mem_cons, List.not_mem_nil, or_false] at htype hneeded
    rcases htype with rfl | rfl | rfl | rfl <;> cases hsource <;>
      rcases hneeded with rfl | rfl | rfl | rfl <;> cases htarget <;> simp [hkeys] at hmem
    · exact List.sublist_append_left [stop, stopArray] _
    · exact (List.sublist_append_left [stopArray, route] _).cons stop
    · exact List.sublist_append_right [stop, stopArray] _
  have hlast : ∀ type ∈ journeys, ∀ other ∈ journeys, Trails journeys edges type →
      ¬Trails journeys edges other → [other, type].Sublist journeys := by
    intro type htype other hother htrails hnot
    simp only [journeys, List.mem_cons, List.not_mem_nil, or_false] at htype
    rcases htype with rfl | rfl | rfl | rfl
    · exact absurd htrails.1 (by decide)
    · exact absurd hneeds (htrails.2 route (by simp [journeys]) (by decide))
    · exact absurd htrails.1 (by decide)
    · have hsplit : other ∈ [stop, stopArray, route] ++ [routeArray] := hother
      rcases List.mem_append.mp hsplit with hother | hother
      · exact (List.singleton_sublist.mpr hother).append (List.Sublist.refl [routeArray])
      · exact absurd (List.mem_singleton.mp hother ▸ htrails) hnot
  exact ⟨hids, hdistinct, edges, hedges, hordered, hlast, hneeds,
    (sortByDependency_stable hids hdistinct hedges hordered).2 hlast⟩

end DartModels.Catalog
