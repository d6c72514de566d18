import DartModels.Proofs.Catalog.Collection

open Relation (TransGen)

namespace DartModels.Catalog

variable {types sorted : List CatalogType} {columns : List Column}

/-- An array type of a set that no type of the set refers to unless it is an array itself. -/
def TrailsIn (set : CatalogType → Prop) (type : CatalogType) : Prop :=
  type.isArray ∧ ∀ user, set user → user.isArray = false → type.id ≠ user.id → ¬RefersTo user type

section

variable (htypes : WellTyped types) (hids : (types.map (·.id)).Nodup)
  (hnames : (types.map (·.name)).Nodup)
include htypes hids hnames

theorem trails_iff_trailsIn {edges : Table (List Label)} (hedges : dependencies types = .ok edges)
    {type : CatalogType} (htype : type ∈ types) :
    Trails types edges type ↔ TrailsIn (· ∈ types) type := by
  refine and_congr_right fun _ => forall_congr' fun user => ?_
  refine forall_congr' fun huser => forall_congr' fun _ => ?_
  rw [needs_iff htypes hids hnames hedges huser htype, not_and]

/-- Where ids and names tell types apart, it depends on the set of types alone whether a type
    stands behind one that it refers to. -/
theorem pair_sublist_sorted_iff (hsorted : sortByDependency types = .ok sorted)
    {type needed : CatalogType} (htype : type ∈ types) (hneeded : needed ∈ types)
    (hother : needed.id ≠ type.id) (hrefers : RefersTo type needed) :
    [needed, type].Sublist sorted ↔
      (TrailsIn (· ∈ types) needed → TrailsIn (· ∈ types) type) := by
  have hunique : sorted.Nodup := (sortByDependency_types htypes.ids hsorted).1.of_map
  obtain ⟨byId, edges, keys, hbyId, hedges, hkeys, rfl⟩ := sortByDependency_eq_ok hsorted
  obtain ⟨source, target, hsource, htarget, hmem⟩ :=
    (needs_iff htypes hids hnames hedges htype hneeded).mpr ⟨hother, hrefers⟩
  have hfind : ∀ key type, byId.find? key = some type ↔ type ∈ types ∧ type.id.key? = some key :=
    fun _ _ => find?_tableBy_of_nodup hbyId (htypes.nodup_ids hids)
  have hplaced := placed_pair_sublist hbyId hkeys ((hfind source type).mpr ⟨htype, hsource⟩)
    ((hfind target needed).mpr ⟨hneeded, htarget⟩) hmem
  have hall := (postorder_keys hkeys).2.1
  rw [← trails_iff_trailsIn htypes hids hnames hedges hneeded,
    ← trails_iff_trailsIn htypes hids hnames hedges htype, ← trails_iff hbyId hfind hall htarget,
    ← trails_iff hbyId hfind hall hsource]
  exact pair_sublist_arranged_iff hunique hplaced

variable (hformats : ∀ column ∈ columns, ∃ format, column.format = .text format)
include hformats

/-- What is collected for columns fails to be sorted exactly if the required types need each
    other in a circle. -/
theorem requiredTypes_fails_iff :
    (∃ failure, (requiredTypes types columns).outcome = .error failure) ↔
      ∃ type, TransGen (RefersWithin (Required types columns)) type type := by
  obtain ⟨-, required, heq, htypes', hids', hnames', hwithin⟩ :=
    exists_required htypes hids hnames hformats
  rw [heq, ← hwithin]
  exact sortByDependency_fails_iff_circle htypes' hids' hnames'

/-- Whether a required type stands behind one that it refers to depends on the set of required
    types alone. -/
theorem pair_sublist_requiredTypes_iff
    (hsorted : (requiredTypes types columns).outcome = .ok sorted) {type needed : CatalogType}
    (htype : Required types columns type) (hneeded : needed ∈ types)
    (hother : needed.id ≠ type.id) (hrefers : RefersTo type needed) :
    [needed, type].Sublist sorted ↔
      (TrailsIn (Required types columns) needed → TrailsIn (Required types columns) type) := by
  obtain ⟨-, required, heq, htypes', hids', hnames', hwithin⟩ :=
    exists_required htypes hids hnames hformats
  rw [heq] at hsorted
  rw [← hwithin] at htype ⊢
  have hneededMem : needed ∈ required :=
    (congrFun hwithin needed).mpr (((congrFun hwithin type).mp htype).referred hneeded hrefers)
  exact pair_sublist_sorted_iff htypes' hids' hnames' hsorted htype hneededMem hother hrefers

end

/-- Which types are required does not depend on the order of the columns. -/
theorem required_perm {others : List Column} (hperm : others.Perm columns) :
    Required types others = Required types columns := by
  funext type
  exact propext ⟨fun h => h.mono hperm.subset, fun h => h.mono hperm.symm.subset⟩

end DartModels.Catalog
