import DartModels.Proofs.Dart.Mention
import DartModels.Proofs.Resolution.Override
import DartModels.Proofs.Resolution.SchemaRecords

namespace DartModels.Generator

open Catalog (labelOf)

/-- Some declaration is that of a class. -/
def Declares (declarables : List DartType) (className : String) : Prop :=
  ∃ type ∈ declarables, type.declaredClass? = some className

/-- An array type makes the class of its elements of its own values or attributes, since no type
    of their name is settled before it. Such a class is not declared. -/
def HidesClass (done : List CatalogType) (className : String) : Prop :=
  ∃ before type after, done = before ++ type :: after ∧ type.isArray ∧
    DartType.builtin? type.base = none ∧ (type.enums ≠ [] ∨ type.attributes ≠ []) ∧
    (∀ other ∈ before, other.name ≠ .text type.base) ∧
    DartType.classNameOf (.text type.base) = className

/-- Each class that a type makes use of is declared or hidden. -/
def Accounted (declarables : List DartType) (done : List CatalogType) (type : DartType) : Prop :=
  ∀ className, type.Mentions className → Declares declarables className ∨ HidesClass done className

variable {locales : List String} {done : List CatalogType} {notes : List Diagnostic}
  {registry : Registry} {declarables : List DartType} {type : CatalogType} {target : DartType}

theorem HidesClass.append {className : String} (h : HidesClass done className)
    (rest : List CatalogType) : HidesClass (done ++ rest) className := by
  obtain ⟨before, type, after, rfl, hhidden⟩ := h
  exact ⟨before, type, after ++ rest, by simp, hhidden⟩

theorem Accounted.append (h : Accounted declarables done target) (more : List DartType)
    (rest : List CatalogType) : Accounted (declarables ++ more) (done ++ rest) target := by
  intro className hmentions
  rcases h className hmentions with ⟨declared, hdeclared, hclass⟩ | hhidden
  · exact .inl ⟨declared, List.mem_append_left _ hdeclared, hclass⟩
  · exact .inr (hhidden.append rest)

/-- The class that a type makes of its own name is declared with it, or hidden in the array that
    the type is. -/
theorem declares_or_hides_base (h : Settled locales done notes registry declarables)
    (helement : type.isArray → registry.findNamed? type.base = none)
    (hbuiltin : DartType.builtin? type.base = none)
    (hparts : type.enums ≠ [] ∨ type.attributes ≠ [])
    (hdeclared : target.declaredClass? = some (DartType.classNameOf (.text type.base)))
    (hadded : declaredBy target = [target]) :
    Declares (declarables ++ declaredBy (Mapping.wrapped type.isArray target))
        (DartType.classNameOf (.text type.base)) ∨
      HidesClass (done ++ [type]) (DartType.classNameOf (.text type.base)) := by
  cases harray : type.isArray with
  | false =>
    refine .inl ⟨target, ?_, hdeclared⟩
    change target ∈ declarables ++ declaredBy target
    rw [hadded]
    simp
  | true =>
    -- The list around the target hides it, and no name was found that it could be a list of.
    refine .inr ⟨done, type, [], rfl, harray, hbuiltin, hparts, fun other hother hname => ?_, rfl⟩
    obtain ⟨entry, hentry⟩ := h.named hother hname
    have hnone := helement harray
    rw [Registry.findNamed?, hentry] at hnone
    cases hnone

theorem mentions_wrapped_iff {isArray : Bool} {className : String} :
    (Mapping.wrapped isArray target).Mentions className ↔ target.Mentions className := by
  cases isArray with
  | false => exact Iff.rfl
  | true => exact ⟨fun h => by cases h; assumption, .list⟩

/-- What a type is mapped to makes use only of classes that are declared or hidden once it is
    settled, if that holds of what is settled before. -/
theorem accounted_of_maps (h : Settled locales done notes registry declarables)
    (hbefore : ∀ key other earlier, registry.byId.find? key = some (other, earlier) →
      Accounted declarables done earlier) {found : List Diagnostic}
    (hmaps : Mapping.Maps locales registry type found target) :
    Accounted (declarables ++ declaredBy target) (done ++ [type]) target := by
  intro className hmentions
  -- A target is either made of what is registered, or of the class of the type's own name.
  cases hmaps with
  | @element element harray helement =>
    obtain ⟨⟨other, _⟩, hentry, rfl⟩ := Option.map_eq_some_iff.mp helement
    obtain ⟨_, _, hbyId⟩ := h.of_byName_find? hentry
    cases hmentions with
    | list hmentions => exact ((hbefore _ _ _ hbyId).append _ _) className hmentions
  | builtin _ hbuiltin =>
    exact absurd (mentions_wrapped_iff.mp hmentions) (DartType.not_mentions_of_builtin? hbuiltin)
  | enum helement hbuiltin henums =>
    cases mentions_wrapped_iff.mp hmentions with
    | enum => exact declares_or_hides_base h helement hbuiltin (.inl henums) rfl rfl
  | composite helement hbuiltin _ hattributes =>
    cases mentions_wrapped_iff.mp hmentions with
    | composite => exact declares_or_hides_base h helement hbuiltin (.inr hattributes) rfl rfl
    | compositeField hfield hmentions =>
      obtain ⟨part, _, rfl⟩ := List.mem_map.mp hfield
      unfold Mapping.fieldType at hmentions
      split at hmentions
      · cases hmentions with
        | reference => exact declares_or_hides_base h helement hbuiltin (.inr hattributes) rfl rfl
      · cases hregistered : registry.withId? part.typeId with
        | none =>
          rw [hregistered] at hmentions
          exact absurd hmentions DartType.not_mentions_scalar
        | some earlier =>
          rw [hregistered] at hmentions
          obtain ⟨⟨other, _⟩, hentry, rfl⟩ := Option.map_eq_some_iff.mp hregistered
          exact ((hbefore _ _ _ hentry).append _ _) className hmentions
  | unmatched => exact absurd hmentions DartType.not_mentions_scalar

/-- Everything that is settled or to be declared makes use only of classes that are declared or
    hidden. -/
theorem Settled.accounted (h : Settled locales done notes registry declarables) :
    (∀ key type target, registry.byId.find? key = some (type, target) →
      Accounted declarables done target) ∧
    ∀ declared ∈ declarables, Accounted declarables done declared := by
  induction h with
  | nil => simp [Table.find?]
  | @concat done notes registry declarables type found target hdone htype hnew htarget ih =>
    obtain ⟨hregistered, hdeclared⟩ := ih
    have hlast := accounted_of_maps hdone hregistered (Mapping.maps_of_target htype htarget)
    constructor
    · intro key other earlier hfind
      rw [Registry.byId_find?_enter] at hfind
      split at hfind
      · cases hfind
        exact hlast
      · exact (hregistered key other earlier hfind).append _ _
    · intro declared hmem
      rcases List.mem_append.mp hmem with hmem | hmem
      · exact (hdeclared declared hmem).append _ _
      · have hsame : declared = target := by
          cases target <;> simp_all [declaredBy]
        exact hsame ▸ hlast

section

variable {generator : Generator} {snapshot : Snapshot} {resolution : Resolution}

theorem Run.accounted_of_schema (run : Run generator snapshot resolution) {type : DartType}
    (htype : type ∈ resolution.registry.schemaTypes ∨
      type ∈ run.records.map SchemaRecord.toType) :
    Accounted resolution.declarables resolution.requiredTypes type := by
  intro className hmentions
  obtain ⟨record, hrecord, rfl⟩ :=
    Registry.exists_schemaRecord run.schemaRecords run.fromSchema htype hmentions
  refine .inl ⟨record.toType, ?_, rfl⟩
  rw [run.declarables]
  exact List.mem_append_right _ (List.mem_map_of_mem hrecord)

/-- The types of the catalog make use only of classes that are declared or hidden. -/
theorem Run.accounted_of_catalog (run : Run generator snapshot resolution) :
    (∀ name type, resolution.registry.findNamed? name = some type →
      Accounted resolution.declarables resolution.requiredTypes type) ∧
    ∀ declared ∈ run.declared,
      Accounted resolution.declarables resolution.requiredTypes declared := by
  obtain ⟨hregistered, hdeclared⟩ := run.settled.accounted
  have hwiden : ∀ type, Accounted run.declared resolution.requiredTypes type →
      Accounted resolution.declarables resolution.requiredTypes type := by
    intro type htype
    have h := htype.append (run.records.map SchemaRecord.toType) []
    rwa [List.append_nil, ← run.declarables] at h
  refine ⟨fun name type hfind => ?_, fun declared h => hwiden declared (hdeclared declared h)⟩
  rw [run.findNamed?_eq] at hfind
  obtain ⟨⟨other, _⟩, hentry, rfl⟩ := Option.map_eq_some_iff.mp hfind
  obtain ⟨_, _, hbyId⟩ := run.settled.of_byName_find? hentry
  exact hwiden _ (hregistered _ _ _ hbyId)

/-- The types of columns and the declarations themselves make use only of classes that are
    declared, apart from those that an array type hides. -/
theorem mentioned_declared_or_hidden (generator : Generator) (htyped : snapshot.WellTyped)
    (hresolve : generator.resolve snapshot = .ok resolution) :
    (∀ column ∈ snapshot.columns, ∀ forInsert, ∃ type,
      column.type resolution.registry forInsert = .ok type ∧
        Accounted resolution.declarables resolution.requiredTypes type) ∧
    ∀ declared ∈ resolution.declarables,
      Accounted resolution.declarables resolution.requiredTypes declared := by
  obtain ⟨run⟩ := (resolve_ends htyped generator).of_eq_ok hresolve
  obtain ⟨hnamed, hdeclared⟩ := run.accounted_of_catalog
  constructor
  · intro column hcolumn forInsert
    have hbase : ∃ base, column.baseType resolution.registry = .ok base ∧
        Accounted resolution.declarables resolution.requiredTypes base := by
      refine ⟨_, Column.baseType_eq (htyped.columns column hcolumn) _, ?_⟩
      cases hoverride : if column.holdsJson then
          resolution.registry.columns.find? (labelOf column.name).key else none with
      | some type =>
        have hfind := (Option.ite_none_right_eq_some.mp hoverride).2
        exact run.accounted_of_schema (.inl (run.mem_schemaTypes hfind))
      | none =>
        cases hformat : resolution.registry.findNamed? column.format.spelling with
        | some type => exact hnamed _ type hformat
        | none => exact fun _ hmentions => absurd hmentions DartType.not_mentions_scalar
    obtain ⟨base, hbase, haccounted⟩ := hbase
    unfold Column.type
    rw [hbase]
    refine ⟨_, rfl, fun className hmentions => haccounted className ?_⟩
    split at hmentions
    · exact DartType.mentions_orNull_iff.mp hmentions
    · exact hmentions
  · intro declared hmem
    rw [run.declarables] at hmem
    rcases List.mem_append.mp hmem with hmem | hmem
    · exact hdeclared declared hmem
    · exact run.accounted_of_schema (.inr hmem)

end

def moodArray : CatalogType := { id := .int 1, name := .text "_mood", enums := [.text "fine"] }

def allMoods : Column := { tableId := .int 1, name := .text "moods", format := .text "_mood" }

def moods : Snapshot :=
  { schemas := []
    tables := []
    views := []
    columns := [allMoods]
    types := [moodArray] }

/-- The class of the elements of an array is not declared where the array is all there is of
    them. -/
theorem mood_hidden :
    moods.WellTyped ∧ ∃ resolution type, ({} : Generator).resolve moods = .ok resolution ∧
      allMoods.type resolution.registry false = .ok type ∧
      type.Mentions (DartType.classNameOf (.text "mood")) ∧
      ¬ Declares resolution.declarables (DartType.classNameOf (.text "mood")) ∧
      HidesClass resolution.requiredTypes (DartType.classNameOf (.text "mood")) := by
  have hmood : moodArray.WellTyped := by constructor <;> simp [moodArray]
  have hmoods : allMoods.WellTyped := ⟨⟨1, rfl⟩, ⟨_, rfl⟩, ⟨_, rfl⟩, .inl rfl⟩
  have htyped : moods.WellTyped := by constructor <;> simp [moods, hmood, hmoods]
  obtain ⟨resolution, hresolve, htype, hdeclarables⟩ : ∃ resolution,
      ({} : Generator).resolve moods = .ok resolution ∧
        allMoods.type resolution.registry false =
          .ok (.nullable (.list (.enum (.text "mood") [.text "fine"] none))) ∧
        resolution.declarables = [] := ⟨_, rfl, rfl, rfl⟩
  obtain ⟨type, htypeOk, haccounted⟩ :=
    (mentioned_declared_or_hidden {} htyped hresolve).1 allMoods List.mem_cons_self false
  cases htypeOk.symm.trans htype
  have hmentions := DartType.Mentions.enum (.text "mood") [.text "fine"] none
  have hundeclared : ¬ Declares resolution.declarables (DartType.classNameOf (.text "mood")) := by
    simp [Declares, hdeclarables]
  exact ⟨htyped, resolution, _, hresolve, htype, hmentions.list.nullable, hundeclared,
    (haccounted _ hmentions.list.nullable).resolve_left hundeclared⟩

end DartModels.Generator
