import DartModels.Proofs.Catalog.Reference
import DartModels.Proofs.Catalog.Snapshot
import DartModels.Proofs.Traced
import DartModels.Resolution.Mapping

namespace DartModels

namespace Registry

variable {registry : Registry}

/-- The target that is registered under an id. -/
def withId? (registry : Registry) (id : Json) : Option DartType :=
  (registry.byId.find? (Catalog.labelOf id).key).map Prod.snd

theorem find?_int (id : Int) : registry.find? (.int id) = .ok (registry.withId? (.int id)) :=
  rfl

theorem find?_text (name : String) : registry.find? (.text name) = .ok (registry.findNamed? name) :=
  rfl

end Registry

namespace CatalogType

/-- The name that the rules are tried on. -/
def base (type : CatalogType) : String :=
  Catalog.baseName type.name.spelling

variable {type : CatalogType} {name : String} (hname : type.name = .text name)
include hname

theorem isArray_eq : type.isArray = Catalog.isArrayName name := by
  rw [isArray, hname]
  rfl

theorem base_eq : type.base = Catalog.baseName name := by
  rw [base, hname]
  rfl

/-- The name of a type that is no array is tried as it is. -/
theorem text_base_eq (hplain : type.isArray = false) : .text type.base = type.name := by
  rw [isArray_eq hname, Catalog.isArrayName, beq_eq_false_iff_ne] at hplain
  rw [base_eq hname, hname, Catalog.baseName]
  split
  · next rest hmarked => simp [hmarked] at hplain
  · rfl

end CatalogType

namespace Mapping

variable {type : CatalogType} {base : String} {registry : Registry}

/-- Whether an attribute refers to another type that is not registered. -/
def isUnresolved (type : CatalogType) (registry : Registry) (part : Attribute) : Bool :=
  !part.typeId.equals type.id && (registry.withId? part.typeId).isNone

/-- The type of the field of an attribute. -/
def fieldType (type : CatalogType) (base : String) (registry : Registry) (part : Attribute) :
    DartType :=
  if part.typeId.equals type.id then .reference (.text base)
  else (registry.withId? part.typeId).getD .dynamic

theorem attributeTarget_eq {part : Attribute} (hpart : ∃ id, part.typeId = .int id) :
    attributeTarget type base registry part =
      ⟨if isUnresolved type registry part then [unresolvedAttribute type part] else [],
        .ok (fieldType type base registry part)⟩ := by
  obtain ⟨id, hid⟩ := hpart
  unfold attributeTarget isUnresolved fieldType
  rw [hid, Registry.find?_int]
  cases (Json.int id).equals type.id with
  | true => rfl
  | false =>
    cases registry.withId? (.int id) with
    | none => rfl
    | some target => rfl

/-- The record of a composite type has a field for each attribute. What is noted are the
    attributes that refer to nothing. -/
theorem composite_eq (hparts : ∀ part ∈ type.attributes, ∃ id, part.typeId = .int id) :
    composite type base registry =
      ⟨(type.attributes.filter (isUnresolved type registry)).map (unresolvedAttribute type),
        .ok (.composite (.text base)
          (type.attributes.map fun part => (part.name, fieldType type base registry part)))⟩ := by
  have hstep : ∀ part ∈ type.attributes,
      (do return (part.name, ← attributeTarget type base registry part) :
        Traced Diagnostic Fault (Json × DartType)) =
        ⟨if isUnresolved type registry part then [unresolvedAttribute type part] else [],
          .ok (part.name, fieldType type base registry part)⟩ := by
    intro part hpart
    rw [attributeTarget_eq (hparts part hpart), Traced.mk_ok_bind_pure]
  have hnotes : ∀ parts : List Attribute,
      parts.flatMap (fun part =>
        if isUnresolved type registry part then [unresolvedAttribute type part] else []) =
        (parts.filter (isUnresolved type registry)).map (unresolvedAttribute type) := by
    intro parts
    induction parts with
    | nil => rfl
    | cons part rest ih =>
      rw [List.flatMap_cons, ih, List.filter_cons]
      cases isUnresolved type registry part <;> rfl
  rw [composite, Traced.mapM_eq_of_ok hstep, Traced.mk_ok_bind_pure, hnotes]

theorem exists_ofJson {enums : List Json} (henums : ∀ value ∈ enums, ∃ text, value = .text text)
    (locales : List String) (comment : Json) :
    ∃ result, Translations.ofJson enums locales comment = .ok result := by
  obtain ⟨keys, hkeys⟩ : ∃ keys, (enums.mapM fun value => do
      return (← Catalog.label value).key : Except Fault (List Json.Key)) = .ok keys := by
    refine exists_mapM_eq_ok fun value hvalue => ?_
    obtain ⟨text, rfl⟩ := henums value hvalue
    exact ⟨.text text, rfl⟩
  unfold Translations.ofJson
  split
  · rw [hkeys]
    dsimp only [ok_bind]
    split
    · exact ⟨_, rfl⟩
    · exact ⟨_, rfl⟩
  · exact ⟨_, rfl⟩

/-- The labels of an enum can be looked for, unless there is a number of too many digits in its
    comment. -/
theorem ofComment_ends (htype : type.WellTyped) (locales : List String) :
    (∃ notes labels, Translations.ofComment type locales = ⟨notes, .ok labels⟩) ∨
      Translations.ofComment type locales = ⟨[], .error .tooManyDigits⟩ := by
  unfold Translations.ofComment
  obtain hcomment | ⟨comment, hcomment⟩ := htype.comment
  · exact .inl ⟨[], none, by rw [hcomment]; rfl⟩
  · rw [hcomment]
    dsimp only
    split_ifs with hblank
    · exact .inl ⟨[], none, rfl⟩
    · rcases Json.load comment with (error | _) | value
      · exact .inl ⟨_, none, rfl⟩
      · exact .inr rfl
      · obtain ⟨result, hresult⟩ := exists_ofJson htype.enums locales value
        simp only [hresult, Traced.lift_ok_bind]
        cases result with
        | ok labels => exact .inl ⟨[], some labels, rfl⟩
        | error faults => exact .inl ⟨_, none, rfl⟩

/-- What a catalog type is mapped to and what is noted about it, rule by rule. A rule
    comes in where those before it do not fit. -/
inductive Maps (locales : List String) (registry : Registry) (type : CatalogType) :
    List Diagnostic → DartType → Prop where
  | element {element : DartType} (harray : type.isArray)
      (helement : registry.findNamed? type.base = some element) :
      Maps locales registry type [] (.list element)
  | builtin {builtin : DartType}
      (helement : type.isArray → registry.findNamed? type.base = none)
      (hbuiltin : DartType.builtin? type.base = some builtin) :
      Maps locales registry type [] (wrapped type.isArray builtin)
  | enum {notes : List Diagnostic} {labels : Option DartModels.Translations}
      (helement : type.isArray → registry.findNamed? type.base = none)
      (hbuiltin : DartType.builtin? type.base = none) (henums : type.enums ≠ [])
      (hlabels : Translations.ofComment type locales = ⟨notes, .ok labels⟩) :
      Maps locales registry type notes
        (wrapped type.isArray (.enum (.text type.base) type.enums labels))
  | composite (helement : type.isArray → registry.findNamed? type.base = none)
      (hbuiltin : DartType.builtin? type.base = none) (henums : type.enums = [])
      (hattributes : type.attributes ≠ []) :
      Maps locales registry type
        ((type.attributes.filter (isUnresolved type registry)).map (unresolvedAttribute type))
        (wrapped type.isArray (.composite (.text type.base)
          (type.attributes.map fun part => (part.name, fieldType type type.base registry part))))
  | unmatched (helement : type.isArray → registry.findNamed? type.base = none)
      (hbuiltin : DartType.builtin? type.base = none) (henums : type.enums = [])
      (hattributes : type.attributes = []) :
      Maps locales registry type [noMatchingType type] .dynamic

/-- Only the rule for composite types makes a record. -/
theorem Maps.of_composite {locales : List String} {notes : List Diagnostic} {name : Json}
    {fields : List (Json × DartType)} (hplain : type.isArray = false)
    (h : Maps locales registry type notes (.composite name fields)) :
    name = .text type.base ∧
      fields = type.attributes.map
        (fun part => (part.name, fieldType type type.base registry part)) ∧
      notes = (type.attributes.filter (isUnresolved type registry)).map
        (unresolvedAttribute type) := by
  generalize htarget : DartType.composite name fields = target at h
  cases h with
  | element => cases htarget
  | builtin _ hbuiltin =>
    rw [hplain, wrapped, if_neg (by simp)] at htarget
    subst htarget
    unfold DartType.builtin? at hbuiltin
    split at hbuiltin <;> cases hbuiltin
  | enum =>
    rw [hplain] at htarget
    cases htarget
  | composite =>
    rw [hplain] at htarget
    cases htarget
    exact ⟨rfl, rfl, rfl⟩
  | unmatched => cases htarget

/-- An array type whose elements are known is a list of them. No other rule is tried. -/
theorem Maps.list_of_element {locales : List String} {notes : List Diagnostic}
    {target element : DartType} (h : Maps locales registry type notes target)
    (harray : type.isArray) (helement : registry.findNamed? type.base = some element) :
    target = .list element := by
  cases h with
  | element _ hfound =>
    cases hfound.symm.trans helement
    rfl
  | builtin hnone => simp [hnone harray] at helement
  | enum hnone => simp [hnone harray] at helement
  | composite hnone => simp [hnone harray] at helement
  | unmatched hnone => simp [hnone harray] at helement

/-- What stops a type from being mapped: the rule for enums comes to it, and its comment cannot
    be read. -/
structure Stuck (locales : List String) (registry : Registry) (type : CatalogType) : Prop where
  element : type.isArray → registry.findNamed? type.base = none
  builtin : DartType.builtin? type.base = none
  enums : type.enums ≠ []
  labels : Translations.ofComment type locales = ⟨[], .error .tooManyDigits⟩

/-- Some rule maps each type that is not stuck. -/
theorem target_ends (htype : type.WellTyped) (locales : List String) (registry : Registry) :
    (∃ notes target, Mapping.target locales registry type = ⟨notes, .ok target⟩ ∧
      Maps locales registry type notes target) ∨
    Mapping.target locales registry type = ⟨[], .error .tooManyDigits⟩ ∧
      Stuck locales registry type := by
  obtain ⟨name, hname⟩ := htype.name
  unfold Mapping.target
  simp only [hname, Catalog.markedName, Traced.lift_ok_bind, ← CatalogType.isArray_eq hname,
    ← CatalogType.base_eq hname]
  cases helement : if type.isArray then registry.findNamed? type.base else none with
  | some element =>
    obtain ⟨harray, helement⟩ : type.isArray ∧ registry.findNamed? type.base = some element := by
      simpa using helement
    exact .inl ⟨[], .list element, rfl, .element harray helement⟩
  | none =>
    have helement : type.isArray → registry.findNamed? type.base = none := by
      simpa using helement
    cases hbuiltin : DartType.builtin? type.base with
    | some builtin => exact .inl ⟨[], _, rfl, .builtin helement hbuiltin⟩
    | none =>
      by_cases henums : type.enums = []
      · by_cases hattributes : type.attributes = []
        · refine .inl ⟨_, _, ?_, .unmatched helement hbuiltin henums hattributes⟩
          simp only [henums, hattributes]
          rfl
        · have hsome : type.attributes.isEmpty = false := by simpa using hattributes
          refine .inl ⟨_, _, ?_, .composite helement hbuiltin henums hattributes⟩
          simp only [henums, hsome, composite_eq fun part hpart => (htype.parts part hpart).2,
            Traced.mk_ok_bind_pure]
          rfl
      · have hsome : type.enums.isEmpty = false := by simpa using henums
        obtain ⟨notes, labels, hlabels⟩ | hlabels := ofComment_ends htype locales
        · refine .inl ⟨notes, _, ?_, .enum helement hbuiltin henums hlabels⟩
          simp only [hsome, enumeration, hlabels, Traced.mk_ok_bind_pure]
          rfl
        · refine .inr ⟨?_, helement, hbuiltin, henums, hlabels⟩
          simp only [hsome, enumeration, hlabels]
          rfl

/-- What a type is mapped to, some rule maps it to. -/
theorem maps_of_target (htype : type.WellTyped) {locales : List String} {registry : Registry}
    {notes : List Diagnostic} {target : DartType}
    (htarget : Mapping.target locales registry type = ⟨notes, .ok target⟩) :
    Maps locales registry type notes target := by
  obtain ⟨_, _, heq, hmaps⟩ | ⟨heq, -⟩ := target_ends htype locales registry
  · cases heq.symm.trans htarget
    exact hmaps
  · cases heq.symm.trans htarget

/-- A type is mapped by no rule where it is stuck. -/
theorem stuck_of_target (htype : type.WellTyped) {locales : List String} {registry : Registry}
    {notes : List Diagnostic} {fault : Fault}
    (htarget : Mapping.target locales registry type = ⟨notes, .error fault⟩) :
    fault = .tooManyDigits ∧ Stuck locales registry type := by
  obtain ⟨_, _, heq, -⟩ | ⟨heq, hstuck⟩ := target_ends htype locales registry
  · cases heq.symm.trans htarget
  · cases heq.symm.trans htarget
    exact ⟨rfl, hstuck⟩

/-- A type that is stuck in one registry is mapped in another only if that one has its elements. -/
theorem Stuck.exists_element {locales : List String} {registry other : Registry}
    {notes : List Diagnostic} {target : DartType} (hstuck : Stuck locales registry type)
    (hmaps : Maps locales other type notes target) :
    type.isArray ∧ ∃ element, other.findNamed? type.base = some element := by
  cases hmaps with
  | element harray helement => exact ⟨harray, _, helement⟩
  | builtin _ hbuiltin => cases hstuck.builtin.symm.trans hbuiltin
  | enum _ _ _ hlabels => cases hstuck.labels.symm.trans hlabels
  | composite _ _ henums => exact absurd henums hstuck.enums
  | unmatched _ _ henums => exact absurd henums hstuck.enums

/-- What a type is mapped to depends only on what is registered under the name of its
    elements and under the ids of its attributes' types. -/
theorem target_congr {other : Registry} (htype : type.WellTyped) (locales : List String)
    (helement : type.isArray → registry.findNamed? type.base = other.findNamed? type.base)
    (hparts : ∀ part ∈ type.attributes, part.typeId.equals type.id = false →
      registry.withId? part.typeId = other.withId? part.typeId) :
    target locales registry type = target locales other type := by
  obtain ⟨name, hname⟩ := htype.name
  have hnamed : (if type.isArray then registry.findNamed? type.base else none) =
      if type.isArray then other.findNamed? type.base else none := by
    split
    · next h => exact helement h
    · rfl
  have hcomposite : composite type type.base registry = composite type type.base other := by
    unfold composite
    rw [Traced.mapM_congr fun part hpart => ?_]
    have htext := (htype.parts part hpart).2
    rw [attributeTarget_eq htext, attributeTarget_eq htext]
    unfold isUnresolved fieldType
    cases hself : part.typeId.equals type.id with
    | true => rfl
    | false => rw [hparts part hpart hself]
  unfold target
  simp only [hname, Catalog.markedName, Traced.lift_ok_bind, ← CatalogType.isArray_eq hname,
    ← CatalogType.base_eq hname, hnamed, hcomposite]

end Mapping
end DartModels
