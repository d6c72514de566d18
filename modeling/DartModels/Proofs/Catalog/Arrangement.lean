import DartModels.Proofs.Catalog.Lookup
import DartModels.Proofs.Graph.Postorder

namespace DartModels.Catalog

/-- Moving what has a property behind the rest keeps the order of two elements unless
    only the first one has it. -/
theorem pair_sublist_partition_iff {α : Type} {p : α → Bool} {xs : List α} {x y : α}
    (h : [x, y].Sublist xs) :
    [x, y].Sublist (xs.filter (!p ·) ++ xs.filter p) ↔ (p x → p y) := by
  constructor
  · intro hmoved hx
    obtain ⟨front, back, heq, hfront, hback⟩ := List.sublist_append_iff.mp hmoved
    cases front with
    | nil =>
      rw [List.nil_append] at heq
      subst heq
      exact (List.mem_filter.mp (hback.subset (by simp))).2
    | cons first rest =>
      have hfirst : x = first := (List.cons.inj heq).1
      have hmem : x ∈ xs.filter (!p ·) := hfront.subset (by simp [hfirst])
      simp [hx] at hmem
  · intro himp
    cases hx : p x with
    | true =>
      have hboth := h.filter p
      simp only [List.filter_cons, hx, himp hx, if_true, List.filter_nil] at hboth
      exact hboth.trans (List.sublist_append_right _ _)
    | false =>
      have hmem : x ∈ xs := h.subset (by simp)
      cases hy : p y with
      | true =>
        have hlast : y ∈ xs := h.subset (by simp)
        exact (List.singleton_sublist.mpr (List.mem_filter.mpr ⟨hmem, by simp [hx]⟩)).append
          (List.singleton_sublist.mpr (List.mem_filter.mpr ⟨hlast, hy⟩))
      | false =>
        have hboth := h.filter (!p ·)
        simp only [List.filter_cons, hx, hy, Bool.not_false, if_true, List.filter_nil] at hboth
        exact hboth.trans (List.sublist_append_left _ _)

/-- What stands before an element that is there once is in the part before it. -/
theorem pair_sublist_iff_mem {α : Type} {before after : List α} {x y : α}
    (hnodup : (before ++ y :: after).Nodup) :
    [x, y].Sublist (before ++ y :: after) ↔ x ∈ before := by
  constructor
  · intro h
    obtain ⟨front, back, heq, hfront, hback⟩ := List.sublist_append_iff.mp h
    cases front with
    | cons first rest =>
      have hfirst : x = first := (List.cons.inj heq).1
      exact hfront.subset (by simp [hfirst])
    | nil =>
      rw [List.nil_append] at heq
      subst heq
      have hlast : [y].Sublist after := by
        cases hback with
        | cons _ hpair => exact (List.sublist_cons_self _ _).trans hpair
        | cons_cons _ hlast => exact hlast
      have hnew := (List.nodup_append.mp hnodup).2.1
      exact absurd (List.singleton_sublist.mp hlast) (List.nodup_cons.mp hnew).1
  · intro hmem
    exact (List.singleton_sublist.mpr hmem).append (by simp)

theorem pair_sublist_map_iff {α β : Type} {f : α → β} {xs : List α} (hnodup : (xs.map f).Nodup)
    {x y : α} (hx : x ∈ xs) (hy : y ∈ xs) :
    [f x, f y].Sublist (xs.map f) ↔ [x, y].Sublist xs := by
  refine ⟨fun h => ?_, fun h => h.map f⟩
  obtain ⟨pair, hpair, heq⟩ := List.sublist_map_iff.mp h
  obtain ⟨first, rest, rfl, hfirst, hrest⟩ := List.map_eq_cons_iff.mp heq.symm
  obtain ⟨second, rest, rfl, hsecond, hnil⟩ := List.map_eq_cons_iff.mp hrest
  obtain rfl := List.map_eq_nil_iff.mp hnil
  obtain rfl := List.inj_on_of_nodup_map hnodup (hpair.subset (by simp)) hx hfirst
  obtain rfl := List.inj_on_of_nodup_map hnodup (hpair.subset (by simp)) hy hsecond
  exact hpair

/-- The types of a list of keys, each under its key. -/
def placed (byId : Table CatalogType) (keys : List Json.Key) : List (Json.Key × CatalogType) :=
  keys.filterMap fun key => (byId.find? key).map fun type => (key, type)

/-- Whether a type is put behind the others: an array type that no type other than an
    array needs. -/
def trails (edges : Table (List Label)) (ordered : List (Json.Key × CatalogType))
    (entry : Json.Key × CatalogType) : Bool :=
  let pinned := (ordered.filter fun (_, type) => !type.isArray).flatMap fun (key, _) =>
    neededKeys edges key
  entry.2.isArray && !pinned.contains entry.1

/-- The types in the order of their needs, with those that trail put last. -/
def arranged (edges : Table (List Label)) (ordered : List (Json.Key × CatalogType)) :
    List CatalogType :=
  (ordered.filter (!trails edges ordered ·) ++ ordered.filter (trails edges ordered)).map Prod.snd

/-- Sorting is the search through the graph of types and the arrangement of what it
    finds. -/
theorem sortByDependency_eq {types : List CatalogType} {byId : Table CatalogType}
    {edges : Table (List Label)} (hbyId : tableBy (·.id) types = .ok byId)
    (hedges : dependencies types = .ok edges) :
    sortByDependency types =
      match (typeGraph byId edges).postorder with
      | .error key =>
        .error (.problem
          (.circularDependency (((byId.find? key).map (·.name)).getD .null) .null []))
      | .ok keys => .ok (arranged edges (placed byId keys)) := by
  rw [sortByDependency, hbyId, hedges]
  rfl

theorem mem_placed {byId : Table CatalogType} {keys : List Json.Key} {key : Json.Key}
    {type : CatalogType} :
    (key, type) ∈ placed byId keys ↔ key ∈ keys ∧ byId.find? key = some type := by
  simp only [placed, List.mem_filterMap, Option.map_eq_some_iff, Prod.mk.injEq]
  constructor
  · rintro ⟨_, hkey, _, hfind, rfl, rfl⟩
    exact ⟨hkey, hfind⟩
  · rintro ⟨hkey, hfind⟩
    exact ⟨key, hkey, type, hfind, rfl, rfl⟩

theorem placed_keys {byId : Table CatalogType} {keys : List Json.Key}
    (hfound : ∀ key ∈ keys, key ∈ byId.keys) : (placed byId keys).map Prod.fst = keys := by
  induction keys with
  | nil => rfl
  | cons key rest ih =>
    obtain ⟨type, htype⟩ := Option.isSome_iff_exists.mp
      ((byId.find?_isSome_iff key).mpr (hfound key (by simp)))
    have hrest := ih fun key h => hfound key (List.mem_cons_of_mem _ h)
    simpa [placed, htype] using hrest

theorem parted_perm (edges : Table (List Label)) (ordered : List (Json.Key × CatalogType)) :
    (ordered.filter (!trails edges ordered ·) ++ ordered.filter (trails edges ordered)).Perm
      ordered :=
  List.perm_append_comm.trans (List.filter_append_perm _ _)

/-- Arranging loses nothing and adds nothing. -/
theorem arranged_perm (edges : Table (List Label)) (ordered : List (Json.Key × CatalogType)) :
    (arranged edges ordered).Perm (ordered.map Prod.snd) :=
  (parted_perm edges ordered).map _

/-- Arranging keeps the order of two types unless only the first one trails. -/
theorem pair_sublist_arranged_iff {edges : Table (List Label)}
    {ordered : List (Json.Key × CatalogType)} (hnodup : (arranged edges ordered).Nodup)
    {first second : Json.Key × CatalogType} (hpair : [first, second].Sublist ordered) :
    [first.2, second.2].Sublist (arranged edges ordered) ↔
      (trails edges ordered first → trails edges ordered second) := by
  have hmem := fun {entry} => (parted_perm edges ordered).mem_iff (a := entry)
  have hfirst := hmem.mpr (hpair.subset (List.mem_cons_self (a := first)))
  have hsecond := hmem.mpr (hpair.subset (by simp : second ∈ [first, second]))
  rw [← pair_sublist_partition_iff hpair]
  exact pair_sublist_map_iff hnodup hfirst hsecond

end DartModels.Catalog
