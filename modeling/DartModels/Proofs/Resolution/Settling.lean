import DartModels.Proofs.Catalog.Collection
import DartModels.Proofs.Resolution.Mapping
import DartModels.Resolution.Generator

namespace DartModels

open Catalog (labelOf labelOf_int_inj labelOf_text_inj)

namespace Registry

variable {registry : Registry} {type : CatalogType} {target : DartType}

/-- The registry with one more type, under its id and under its name. -/
def enter (registry : Registry) (type : CatalogType) (target : DartType) : Registry :=
  { registry with
    byId := registry.byId.insert (labelOf type.id) (type, target)
    byName := registry.byName.insert (labelOf type.name) (type, target) }

theorem byId_find?_enter (key : Json.Key) :
    (registry.enter type target).byId.find? key =
      if (labelOf type.id).key = key then some (type, target) else registry.byId.find? key :=
  Table.find?_insert _ _ _ _

theorem byName_find?_enter (key : Json.Key) :
    (registry.enter type target).byName.find? key =
      if (labelOf type.name).key = key then some (type, target) else registry.byName.find? key :=
  Table.find?_insert _ _ _ _

/-- A type with a new id can be entered. -/
theorem insert_eq (htype : type.WellTyped)
    (hnew : registry.byId.find? (labelOf type.id).key = none) (target : DartType) :
    registry.insert type target = .ok (registry.enter type target) := by
  obtain ⟨id, hid⟩ := htype.id
  obtain ⟨name, hname⟩ := htype.name
  have hcontains : registry.byId.contains (labelOf type.id).key = false := by
    simpa [Table.find?, Table.contains] using hnew
  have hbyId : registry.insertById type target =
      .ok { registry with byId := registry.byId.insert (labelOf type.id) (type, target) } := by
    have hlabel : Catalog.label type.id = .ok (labelOf type.id) := by rw [hid]; rfl
    simp only [insertById, hlabel, Failure.ofFault, Except.mapError, ok_bind, hcontains]
    rfl
  have hlabel : Catalog.label type.name = .ok (labelOf type.name) := by rw [hname]; rfl
  simp only [insert, hbyId, ok_bind, insertByName, hlabel]
  rfl

end Registry

namespace Generator

variable {generator : Generator} {type : CatalogType} {registry : Registry}
  {declarables : List DartType} {found : List Diagnostic} {target : DartType}

/-- What the target of a type adds to the declarations. -/
def declaredBy : DartType → List DartType
  | .enum name values labels => [.enum name values labels]
  | .composite name fields => [.composite name fields]
  | _ => []

theorem settleType_eq (htype : type.WellTyped)
    (hnew : registry.byId.find? (labelOf type.id).key = none)
    (htarget : Mapping.target generator.locales registry type = ⟨found, .ok target⟩) :
    generator.settleType (registry, declarables) type =
      ⟨found, .ok (registry.enter type target, declarables ++ declaredBy target)⟩ := by
  simp only [settleType, htarget, Traced.mapError, Except.mapError, Traced.mk_ok_bind,
    Registry.insert_eq htype hnew, Traced.lift_ok_bind]
  cases target <;> simp [declaredBy]

/-- What the settling of types one after the other leaves behind: what was noted, the
    registry, and what is to be declared. -/
inductive Settled (locales : List String) :
    List CatalogType → List Diagnostic → Registry → List DartType → Prop where
  | nil : Settled locales [] [] {} []
  | concat {done : List CatalogType} {notes : List Diagnostic} {registry : Registry}
      {declarables : List DartType} {type : CatalogType} {found : List Diagnostic}
      {target : DartType} (hdone : Settled locales done notes registry declarables)
      (htype : type.WellTyped) (hnew : type.id ∉ done.map (·.id))
      (htarget : Mapping.target locales registry type = ⟨found, .ok target⟩) :
      Settled locales (done ++ [type]) (notes ++ found) (registry.enter type target)
        (declarables ++ declaredBy target)

namespace Settled

variable {locales : List String} {done : List CatalogType} {notes : List Diagnostic}

theorem wellTyped (h : Settled locales done notes registry declarables) :
    ∀ type ∈ done, type.WellTyped := by
  induction h with
  | nil => simp
  | concat _ htype _ _ ih =>
    intro other hother
    rcases List.mem_append.mp hother with hother | hother
    · exact ih other hother
    · exact List.mem_singleton.mp hother ▸ htype

theorem of_byId_find? (h : Settled locales done notes registry declarables) {key : Json.Key}
    (hfind : registry.byId.find? key = some (type, target)) :
    type ∈ done ∧ (labelOf type.id).key = key := by
  induction h with
  | nil => simp [Table.find?] at hfind
  | concat _ _ _ _ ih =>
    rw [Registry.byId_find?_enter] at hfind
    split at hfind
    · next hkey =>
      cases hfind
      exact ⟨by simp, hkey⟩
    · obtain ⟨hmem, hkey⟩ := ih hfind
      exact ⟨List.mem_append_left _ hmem, hkey⟩

theorem byId_find?_eq_none (h : Settled locales done notes registry declarables) {id : Json}
    (hid : ∃ number, id = .int number) (hnew : id ∉ done.map (·.id)) :
    registry.byId.find? (labelOf id).key = none := by
  cases hfind : registry.byId.find? (labelOf id).key with
  | none => rfl
  | some entry =>
    obtain ⟨hmem, hkey⟩ := h.of_byId_find? hfind
    rw [labelOf_int_inj (h.wellTyped _ hmem).id hid] at hkey
    exact absurd (hkey ▸ List.mem_map_of_mem hmem) hnew

/-- A type with a new id takes no entry away. -/
theorem byId_find?_enter_of_new (h : Settled locales done notes registry declarables)
    (hid : ∃ number, type.id = .int number) (hnew : type.id ∉ done.map (·.id)) {key : Json.Key}
    {entry : CatalogType × DartType} (hfind : registry.byId.find? key = some entry) :
    (registry.enter type target).byId.find? key = some entry := by
  have hother : (labelOf type.id).key ≠ key := by
    rintro rfl
    rw [h.byId_find?_eq_none hid hnew] at hfind
    cases hfind
  rw [Registry.byId_find?_enter, if_neg hother, hfind]

theorem registered (h : Settled locales done notes registry declarables) (hmem : type ∈ done) :
    ∃ target, registry.byId.find? (labelOf type.id).key = some (type, target) := by
  induction h with
  | nil => simp at hmem
  | @concat _ _ _ _ _ _ target hdone hlast hnew _ ih =>
    rcases List.mem_append.mp hmem with hmem | hmem
    · obtain ⟨earlier, hentry⟩ := ih hmem
      exact ⟨earlier, hdone.byId_find?_enter_of_new hlast.id hnew hentry⟩
    · cases List.mem_singleton.mp hmem
      exact ⟨target, (Registry.byId_find?_enter _).trans (if_pos rfl)⟩

/-- The entry under a name is that of a type of that name, and is there under the id of this
    type too. -/
theorem of_byName_find? (h : Settled locales done notes registry declarables) {name : String}
    (hfind : registry.byName.find? (.text name) = some (type, target)) :
    type ∈ done ∧ type.name = .text name ∧
      registry.byId.find? (labelOf type.id).key = some (type, target) := by
  induction h with
  | nil => simp [Table.find?] at hfind
  | concat hdone hlast hnew _ ih =>
    rw [Registry.byName_find?_enter] at hfind
    split at hfind
    · next hkey =>
      cases hfind
      exact ⟨by simp, (labelOf_text_inj hlast.name ⟨name, rfl⟩).mp hkey,
        (Registry.byId_find?_enter _).trans (if_pos rfl)⟩
    · obtain ⟨hmem, hname, hentry⟩ := ih hfind
      exact ⟨List.mem_append_left _ hmem, hname,
        hdone.byId_find?_enter_of_new hlast.id hnew hentry⟩

theorem named (h : Settled locales done notes registry declarables) (hmem : type ∈ done)
    {name : String} (hname : type.name = .text name) :
    ∃ entry, registry.byName.find? (.text name) = some entry := by
  induction h with
  | nil => simp at hmem
  | concat _ _ _ _ ih =>
    rw [Registry.byName_find?_enter]
    split
    · exact ⟨_, rfl⟩
    · next hother =>
      refine ih ((List.mem_append.mp hmem).resolve_right fun hlast => hother ?_)
      rw [← List.mem_singleton.mp hlast, hname]
      rfl

theorem mem_catalogEntries_of_findNamed? (h : Settled locales done notes registry declarables)
    {name : String} (hfind : registry.findNamed? name = some target) :
    ∃ type, type.name = .text name ∧ (type, target) ∈ registry.catalogEntries := by
  obtain ⟨⟨type, _⟩, hentry, rfl⟩ := Option.map_eq_some_iff.mp hfind
  obtain ⟨_, hname, hbyId⟩ := h.of_byName_find? hentry
  exact ⟨type, hname, Table.mem_values_of_find? hbyId⟩

/-- What the last type gets with its rule, and keeps when more is settled, all types have. -/
theorem forall_catalogEntries
    (good : List CatalogType → List Diagnostic → CatalogType × DartType → Prop)
    (hmono : ∀ {done notes type found entry}, good done notes entry →
      good (done ++ [type]) (notes ++ found) entry)
    (hrule : ∀ {done notes registry declarables type found target},
      Settled locales done notes registry declarables →
      (∀ entry ∈ registry.catalogEntries, good done notes entry) → type.WellTyped →
      Mapping.Maps locales registry type found target →
      good (done ++ [type]) (notes ++ found) (type, target))
    (h : Settled locales done notes registry declarables) :
    ∀ entry ∈ registry.catalogEntries, good done notes entry := by
  induction h with
  | nil => simp [Registry.catalogEntries, Table.values]
  | @concat done notes registry declarables type found target hdone htype hnew htarget ih =>
    intro entry hentry
    rcases Table.mem_values_insert hentry with rfl | hentry
    · exact hrule hdone ih htype (Mapping.maps_of_target htype htarget)
    · exact hmono (ih entry hentry)

/-- What each rule gives a target whose parts have it, all targets have. -/
theorem keeps (good : DartType → Prop)
    (hrule : ∀ {registry type notes target}, Mapping.Maps locales registry type notes target →
      (∀ name element, registry.findNamed? name = some element → good element) →
      (∀ id earlier, registry.withId? id = some earlier → good earlier) → good target)
    (h : Settled locales done notes registry declarables) :
    ∀ entry ∈ registry.catalogEntries, good entry.2 := by
  refine h.forall_catalogEntries (fun _ _ entry => good entry.2) id fun hdone hbefore _ hmaps =>
    hrule hmaps (fun name element helement => ?_) fun id earlier hearlier => ?_
  · obtain ⟨source, _, hsource⟩ := hdone.mem_catalogEntries_of_findNamed? helement
    exact hbefore _ hsource
  · obtain ⟨_, hfound, rfl⟩ := Option.map_eq_some_iff.mp hearlier
    exact hbefore _ (Table.mem_values_of_find? hfound)

theorem findNamed?_eq_none (h : Settled locales done notes registry declarables) {name : String}
    (hnone : ∀ type ∈ done, type.name ≠ .text name) : registry.findNamed? name = none := by
  unfold Registry.findNamed?
  cases hentry : registry.byName.find? (.text name) with
  | none => rfl
  | some entry =>
    obtain ⟨hmem, hname, _⟩ := h.of_byName_find? hentry
    exact absurd hname (hnone _ hmem)

/-- Where ids and names tell types apart, a name finds what is registered under the id of the
    type of that name. -/
theorem findNamed?_eq (h : Settled locales done notes registry declarables)
    {types : List CatalogType} (htypes : Catalog.Unambiguous types)
    (hsub : ∀ type ∈ done, type ∈ types) (hmem : type ∈ types) {name : String}
    (hname : type.name = .text name) : registry.findNamed? name = registry.withId? type.id := by
  have honly : ∀ other ∈ done, other.name = .text name → other = type := fun other hother heq =>
    List.inj_on_of_nodup_map htypes.distinctNames (hsub other hother) hmem (heq.trans hname.symm)
  by_cases hdone : type ∈ done
  · obtain ⟨⟨other, target⟩, hentry⟩ := h.named hdone hname
    obtain ⟨hother, hotherName, hbyId⟩ := h.of_byName_find? hentry
    cases honly other hother hotherName
    rw [Registry.findNamed?, Registry.withId?, hentry, hbyId]
  · have hid : type.id ∉ done.map (·.id) := htypes.id_notMem hmem hsub hdone
    rw [h.findNamed?_eq_none fun other hother heq => hdone (honly other hother heq ▸ hother),
      Registry.withId?, h.byId_find?_eq_none (htypes.ids type hmem) hid]
    rfl

/-- Settling goes the way of the steps. -/
theorem foldlM_eq (h : Settled generator.locales done notes registry declarables) :
    done.foldlM generator.settleType ({}, []) = ⟨notes, .ok (registry, declarables)⟩ := by
  induction h with
  | nil => rfl
  | concat hdone htype hnew htarget ih =>
    rw [List.foldlM_append, ih, Traced.mk_ok_bind]
    simp only [List.foldlM_cons, List.foldlM_nil, bind_pure,
      settleType_eq htype (hdone.byId_find?_eq_none htype.id hnew) htarget]

/-- The steps leave one registry behind. -/
theorem registry_unique {others : List Diagnostic} {other : Registry} {declared : List DartType}
    (h : Settled locales done notes registry declarables)
    (hother : Settled locales done others other declared) : registry = other := by
  let generator : Generator := { locales }
  have hfold : done.foldlM generator.settleType ({}, []) = _ := foldlM_eq h
  cases hfold.symm.trans (foldlM_eq hother)
  rfl

/-- Settling stops at a type that is stuck. -/
theorem foldlM_of_stuck (h : Settled generator.locales done notes registry declarables)
    {fault : Fault} (htarget : Mapping.target generator.locales registry type = ⟨[], .error fault⟩)
    (after : List CatalogType) :
    (done ++ type :: after).foldlM generator.settleType ({}, []) =
      ⟨notes, .error (.fault fault)⟩ := by
  have hstep : generator.settleType (registry, declarables) type = ⟨[], .error (.fault fault)⟩ := by
    simp only [settleType, htarget]
    rfl
  rw [List.foldlM_append, h.foldlM_eq, Traced.mk_ok_bind, List.foldlM_cons, hstep]
  exact congrArg (Traced.mk · _) (List.append_nil notes)

/-- Settling catalog types leaves what schemas give alone. -/
theorem columns_eq (h : Settled locales done notes registry declarables) :
    registry.columns = ⟨[]⟩ ∧ registry.derived = ⟨[]⟩ ∧ registry.schemaTypes = [] := by
  induction h with
  | nil => exact ⟨rfl, rfl, rfl⟩
  | concat _ _ _ _ ih => exact ih

theorem of_concat (h : Settled locales (done ++ [type]) notes registry declarables) :
    ∃ earlier before declared found target, Settled locales done earlier before declared ∧
      Mapping.target locales before type = ⟨found, .ok target⟩ ∧ notes = earlier ++ found ∧
      registry = before.enter type target ∧ declarables = declared ++ declaredBy target ∧
      type.WellTyped ∧ type.id ∉ done.map (·.id) := by
  generalize hall : done ++ [type] = all at h
  cases h with
  | nil => simp at hall
  | concat hdone htype hnew htarget =>
    obtain ⟨rfl, hlast⟩ := List.append_inj' hall rfl
    cases hlast
    exact ⟨_, _, _, _, _, hdone, htarget, rfl, rfl, rfl, htype, hnew⟩

/-- The settling of a list is that of its first part, which the rest adds to. -/
theorem of_append {before after : List CatalogType}
    (h : Settled locales (before ++ after) notes registry declarables) :
    ∃ earlier middle declared later, Settled locales before earlier middle declared ∧
      notes = earlier ++ later ∧
      ∀ key entry, middle.byId.find? key = some entry → registry.byId.find? key = some entry := by
  -- From the end of the second part: its last type is the one that was settled last.
  induction after using List.reverseRecOn generalizing notes registry declarables with
  | nil =>
    rw [List.append_nil] at h
    exact ⟨notes, registry, declarables, [], h, (List.append_nil _).symm, fun _ _ => id⟩
  | append_singleton after last ih =>
    rw [← List.append_assoc] at h
    obtain ⟨_, _, _, found, target, hdone, _, rfl, rfl, rfl, hlast, hnew⟩ := h.of_concat
    obtain ⟨earlier, middle, declared, later, hbefore, rfl, hkept⟩ := ih hdone
    exact ⟨earlier, middle, declared, later ++ found, hbefore, List.append_assoc ..,
      fun key entry hfind =>
        hdone.byId_find?_enter_of_new hlast.id hnew (hkept key entry hfind)⟩

/-- Each type is settled after those before it in the list, and its entry stays. -/
theorem exists_step {before after : List CatalogType}
    (h : Settled locales (before ++ type :: after) notes registry declarables) :
    ∃ earlier middle declared found target later,
      Settled locales before earlier middle declared ∧
      Mapping.target locales middle type = ⟨found, .ok target⟩ ∧
      notes = earlier ++ found ++ later ∧
      registry.byId.find? (labelOf type.id).key = some (type, target) ∧
      ∀ key entry, middle.byId.find? key = some entry → registry.byId.find? key = some entry := by
  rw [← List.singleton_append, ← List.append_assoc] at h
  obtain ⟨_, middle, _, later, hdone, rfl, hkept⟩ := h.of_append
  obtain ⟨earlier, before, declared, found, target, hbefore, htarget, rfl, rfl, rfl, htype, hnew⟩ :=
    hdone.of_concat
  exact ⟨earlier, before, declared, found, target, later, hbefore, htarget, rfl,
    hkept _ _ ((Registry.byId_find?_enter _).trans (if_pos rfl)), fun key entry hfind =>
      hkept key entry (hbefore.byId_find?_enter_of_new htype.id hnew hfind)⟩

end Settled

/-- A type in a list cannot be mapped when those before it are settled. -/
inductive StuckIn (locales : List String) : List CatalogType → Prop where
  | mk {before : List CatalogType} {type : CatalogType} {notes : List Diagnostic}
      {registry : Registry} {declarables : List DartType}
      (hbefore : Settled locales before notes registry declarables)
      (htarget : Mapping.target locales registry type = ⟨[], .error .tooManyDigits⟩)
      (after : List CatalogType) : StuckIn locales (before ++ type :: after)

/-- Types of distinct ids can be settled in any order, unless one is stuck. -/
theorem settled_ends (locales : List String) {types : List CatalogType}
    (htypes : ∀ type ∈ types, type.WellTyped) (hids : (types.map (·.id)).Nodup) :
    (∃ notes registry declarables, Settled locales types notes registry declarables) ∨
      StuckIn locales types := by
  induction types using List.reverseRecOn with
  | nil => exact .inl ⟨[], {}, [], .nil⟩
  | append_singleton done type ih =>
    rw [List.map_append, List.nodup_append] at hids
    obtain ⟨hdoneIds, _, hother⟩ := hids
    have htype := htypes type (by simp)
    obtain ⟨notes, registry, declarables, hdone⟩ | ⟨hbefore, hstuck, after⟩ :=
      ih (fun other hother => htypes other (List.mem_append_left _ hother)) hdoneIds
    · obtain ⟨found, target, htarget, _⟩ | ⟨htarget, _⟩ :=
        Mapping.target_ends htype locales registry
      · exact .inl ⟨_, _, _,
          hdone.concat htype (fun hmem => hother _ hmem _ (by simp) rfl) htarget⟩
      · exact .inr (.mk hdone htarget [])
    · rw [List.append_assoc, List.cons_append]
      exact .inr (.mk hbefore hstuck _)

end Generator
end DartModels
