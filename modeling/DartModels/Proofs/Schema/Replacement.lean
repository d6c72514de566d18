import DartModels.Proofs.Resolution.Dynamic
import DartModels.Proofs.Schema.Soundness
import Mathlib.Logic.Relation

namespace DartModels

theorem DartType.StandsIn.orNull {type other : DartType} (h : type.StandsIn other) :
    type.StandsIn other.orNull := by
  cases other with
  | nullable inner => exact h
  | _ => exact .nullable h

theorem DartType.StandsIn.trans {type other outer : DartType} (h : type.StandsIn other)
    (houter : other.StandsIn outer) : type.StandsIn outer := by
  induction houter with
  | self => exact h
  | list _ ih => exact .list ih
  | nullable _ ih => exact .nullable ih
  | key _ ih => exact .key ih
  | value _ ih => exact .value ih
  | compositeField hfield _ ih => exact .compositeField hfield ih
  | objectField hfield _ ih => exact .objectField hfield ih

namespace Schema

/-- What a `type` says apart from null. A list of one type says what that type says. -/
inductive Says : Json → Alternative → Prop where
  | single {type : Json} (htype : ∀ types, type ≠ .array types) : Says type (.single type)
  | none {types : List Json} (hnull : types.filter (!isNullType ·) = []) :
      Says (.array types) .none
  | only {types : List Json} {type : Json} {said : Alternative}
      (honly : types.filter (!isNullType ·) = [type]) (htype : Says type said) :
      Says (.array types) said
  | several {types : List Json} (hseveral : 2 ≤ (types.filter (!isNullType ·)).length) :
      Says (.array types) (.several types)

theorem declaredAll_eq_map (types : List Json) :
    declaredAll types = (types.filter (!isNullType ·)).map declared := by
  induction types with
  | nil => rfl
  | cons type rest ih =>
    rw [declaredAll, ih, List.filter_cons]
    cases isNullType type <;> rfl

theorem Says.alternative_eq {type : Json} {said : Alternative} (h : Says type said) :
    (declared type).alternative = said := by
  induction h with
  | single htype => rw [declared_of_notList htype]
  | none hnull => rw [declared, declaredAll_eq_map, hnull]; rfl
  | only honly _ ih => rw [declared, declaredAll_eq_map, honly]; exact ih
  | @several types hseveral =>
    rw [declared, declaredAll_eq_map]
    rcases hothers : types.filter (!isNullType ·) with _ | ⟨_, _ | ⟨_, _⟩⟩
    · simp [hothers] at hseveral
    · simp [hothers] at hseveral
    · rfl

theorem says_declared (type : Json) : Says type (declared type).alternative := by
  cases type with
  | array types =>
    rw [declared, declaredAll_eq_map]
    rcases hothers : types.filter (!isNullType ·) with _ | ⟨only, _ | ⟨_, _⟩⟩
    · exact .none hothers
    · have hmem : only ∈ types := List.mem_of_mem_filter (hothers ▸ List.mem_singleton_self only)
      have hsize : sizeOf only < sizeOf (Json.array types) := by
        have := List.sizeOf_lt_of_mem hmem
        simp
        omega
      exact .only hothers (says_declared only)
    · exact .several (by simp [hothers])
  | _ =>
    rw [declared_of_notList (by simp)]
    exact .single (by simp)
termination_by sizeOf type

/-- A schema that describes an array, and its items. -/
structure IsArrayOf (members : Json.Members) (items : Json) : Prop where
  type : Says (typeMember members) (.single (.text "array"))
  given : members.lookup "items" = some items
  present : items ≠ .null

/-- A schema that describes an object, and its properties. -/
structure IsRecordOf (members properties : Json.Members) : Prop where
  type : Says (typeMember members) (.single (.text "object"))
  given : members.lookup "properties" = some (.object properties)

/-- A part of a schema, with the name that its record would have. -/
structure Part where
  schema : Json
  name : Json

/-- The type of a part. -/
def Part.typed (part : Part) : Typed DartType :=
  typeOf part.schema part.name

/-- A part is typed on the way to the type of another one: the items of an array, or a
    property of a record that has a name. -/
inductive Child : Part → Part → Prop where
  | items {members : Json.Members} {name items : Json} (harray : IsArrayOf members items) :
      Child ⟨.object members, name⟩ ⟨items, elementName name⟩
  | property {members properties : Json.Members} {name property : Json} {key : String}
      (hrecord : IsRecordOf members properties) (hname : name ≠ .null)
      (hproperty : (key, property) ∈ properties) :
      Child ⟨.object members, name⟩ ⟨property, .text key⟩

/-- A part is come by, at any depth. -/
abbrev Visits : Part → Part → Prop :=
  Relation.ReflTransGen Child

/-- What stops the typing of a part: an object in place of a type, or an array or object in
    place of the name of a required property. -/
inductive Unusable : Part → Prop where
  | type {members other : Json.Members} {name : Json}
      (htype : Says (typeMember members) (.single (.object other))) :
      Unusable ⟨.object members, name⟩
  | required {members properties : Json.Members} {name entry : Json} {entries : List Json}
      (hrecord : IsRecordOf members properties) (hname : name ≠ .null)
      (hrequired : members.lookup "required" = some (.array entries)) (hentry : entry ∈ entries)
      (hkey : entry.key? = none) : Unusable ⟨.object members, name⟩

/-- What a malformed part is replaced by, and how that is reported. -/
inductive Replaced : Part → Diagnostic → DartType → Prop where
  | notObject {schema name : Json} (hschema : ∀ members, schema ≠ .object members) :
      Replaced ⟨schema, name⟩ (notObject name) .jsonMap
  | several {members : Json.Members} {name : Json} {types : List Json}
      (htypes : Says (typeMember members) (.several types)) :
      Replaced ⟨.object members, name⟩ (union types name) .dynamic
  | unnamed {members properties : Json.Members} (hrecord : IsRecordOf members properties) :
      Replaced ⟨.object members, .null⟩ (unnamed (Json.put "type" (.text "object") members))
        .jsonMap
  | unrecognized {members : Json.Members} {name type : Json}
      (htype : Says (typeMember members) (.single type)) (hobject : ∀ other, type ≠ .object other)
      (hprimitive : ∀ spelling, type = .text spelling → primitive? spelling = none)
      (harray : ∀ items, ¬ IsArrayOf members items)
      (hrecord : ∀ properties, ¬ IsRecordOf members properties) :
      Replaced ⟨.object members, name⟩ (unrecognized type name) .dynamic

variable {members properties : Json.Members} {name items : Json}

theorem Says.unique {type : Json} {said other : Alternative} (h : Says type said)
    (hother : Says type other) : said = other :=
  h.alternative_eq.symm.trans hother.alternative_eq

theorem IsArrayOf.unique {other : Json} (h : IsArrayOf members items)
    (hother : IsArrayOf members other) : other = items :=
  Option.some.inj (hother.given.symm.trans h.given)

theorem IsRecordOf.unique {other : Json.Members} (h : IsRecordOf members properties)
    (hother : IsRecordOf members other) : other = properties := by
  cases hother.given.symm.trans h.given
  rfl

theorem IsArrayOf.not_isRecordOf (h : IsArrayOf members items) : ¬ IsRecordOf members properties :=
  fun hrecord => absurd (h.type.unique hrecord.type) (by simp)

/-- An array with items has one child. -/
theorem IsArrayOf.child_iff (h : IsArrayOf members items) {child : Part} :
    Child ⟨.object members, name⟩ child ↔ child = ⟨items, elementName name⟩ := by
  constructor
  · rintro (hother | ⟨hother, _⟩)
    · rw [h.unique hother]
    · exact absurd hother h.not_isRecordOf
  · rintro rfl
    exact .items h

/-- The children of a record with a name are its properties. -/
theorem IsRecordOf.child_iff (h : IsRecordOf members properties) (hname : name ≠ .null)
    {child : Part} : Child ⟨.object members, name⟩ child ↔
      ∃ property ∈ properties, child = ⟨property.2, .text property.1⟩ := by
  constructor
  · rintro (hother | ⟨hother, _, hproperty⟩)
    · exact absurd h hother.not_isRecordOf
    · cases h.unique hother
      exact ⟨_, hproperty, rfl⟩
  · rintro ⟨property, hproperty, rfl⟩
    exact .property h hname hproperty

section

variable {part child : Part} {note other : Diagnostic} {target otherTarget : DartType}

/-- What is noted of a malformed part is about its name. -/
theorem Replaced.note_says (h : Replaced part note target) :
    note.subject = part.name ∧
      (note.code = "json_schema_invalid" ∨ note.code = "json_schema_unnamed") := by
  cases h with
  | notObject | several | unrecognized => exact ⟨rfl, .inl rfl⟩
  | unnamed => exact ⟨rfl, .inr rfl⟩

/-- A malformed part is replaced in one way. -/
theorem Replaced.unique (h : Replaced part note target) (hother : Replaced part other otherTarget) :
    other = note ∧ otherTarget = target := by
  cases h with
  | notObject hschema =>
    cases hother with
    | notObject => exact ⟨rfl, rfl⟩
    | several | unnamed | unrecognized => exact absurd rfl (hschema _)
  | several htypes =>
    cases hother with
    | notObject hschema => exact absurd rfl (hschema _)
    | several hother => cases htypes.unique hother; exact ⟨rfl, rfl⟩
    | unnamed hrecord => cases htypes.unique hrecord.type
    | unrecognized htype => cases htypes.unique htype
  | unnamed hrecord =>
    cases hother with
    | notObject hschema => exact absurd rfl (hschema _)
    | several htypes => cases htypes.unique hrecord.type
    | unnamed => exact ⟨rfl, rfl⟩
    | unrecognized _ _ _ _ hother => exact absurd hrecord (hother _)
  | unrecognized htype _ _ _ hnot =>
    cases hother with
    | notObject hschema => exact absurd rfl (hschema _)
    | several htypes => cases htypes.unique htype
    | unnamed hrecord => exact absurd hrecord (hnot _)
    | unrecognized hother => cases htype.unique hother; exact ⟨rfl, rfl⟩

/-- A record is replaced only if it has no name. -/
theorem Replaced.name_eq_null (h : Replaced ⟨.object members, name⟩ note target)
    (hrecord : IsRecordOf members properties) : name = .null := by
  cases h with
  | notObject hschema => exact absurd rfl (hschema _)
  | several htypes => cases htypes.unique hrecord.type
  | unnamed => rfl
  | unrecognized _ _ _ _ hother => exact absurd hrecord (hother _)

/-- What is replaced does not stop the typing. -/
theorem Replaced.usable (h : Replaced part note target) : ¬ Unusable part := by
  intro hunusable
  cases hunusable with
  | type hother =>
    cases h with
    | notObject hschema => exact absurd rfl (hschema _)
    | several htypes => cases htypes.unique hother
    | unnamed hrecord => cases hrecord.type.unique hother
    | unrecognized htype hobject => cases htype.unique hother; exact hobject _ rfl
  | required hrecord hname => exact hname (h.name_eq_null hrecord)

/-- What is replaced is not looked into. -/
theorem Replaced.childless (h : Replaced part note target) : ¬ Child part child := by
  intro hchild
  cases hchild with
  | items hother =>
    cases h with
    | notObject hschema => exact absurd rfl (hschema _)
    | several htypes => cases htypes.unique hother.type
    | unnamed hrecord => exact hother.not_isRecordOf hrecord
    | unrecognized _ _ _ harray => exact harray _ hother
  | property hrecord hname => exact hname (h.name_eq_null hrecord)

end

/-- How the typing of a part ends well, told from how that of its children does. -/
structure Settles (part : Part) (events : List Event) (type : DartType) : Prop where
  usable : ¬ Unusable part
  replaced : ∀ note target, Replaced part note target → type = target ∨ type = target.orNull
  children : ∀ child, Child part child → ∃ own, child.typed.outcome = .ok own ∧ own.StandsIn type
  noted : ∀ note, .noted note ∈ events ↔ (∃ target, Replaced part note target) ∨
    ∃ child, Child part child ∧ .noted note ∈ child.typed.trace

/-- How the typing of a part fails, told from how that of its children does. -/
def Fails (part : Part) (fault : Fault) : Prop :=
  fault = .notKey ∧ Unusable part ∨ ∃ child, Child part child ∧ child.typed.outcome = .error fault

/-- A part is typed as its children are. -/
def Accounts (part : Part) (result : Typed DartType) : Prop :=
  Ends (Settles part result.trace) (Fails part) result.outcome

theorem Accounts.replaced {part : Part} {note : Diagnostic} {target type : DartType}
    (h : Replaced part note target) (htype : type = target ∨ type = target.orNull) :
    Accounts part ⟨[.noted note], .ok type⟩ where
  usable := h.usable
  replaced other otherTarget hother := by
    obtain ⟨rfl, rfl⟩ := h.unique hother
    exact htype
  children child hchild := absurd hchild h.childless
  noted other := by
    constructor
    · intro hmem
      cases List.mem_singleton.mp hmem
      exact .inl ⟨target, h⟩
    · rintro (⟨otherTarget, hother⟩ | ⟨child, hchild, _⟩)
      · rw [(h.unique hother).1]
        exact List.mem_singleton_self _
      · exact absurd hchild h.childless

/-- A part that is not replaced makes the notes of its children. -/
theorem Settles.of_children {part : Part} {events : List Event} {type : DartType}
    (husable : ¬ Unusable part) (hreplaced : ∀ note target, ¬ Replaced part note target)
    (hchildren : ∀ child, Child part child →
      ∃ own, child.typed.outcome = .ok own ∧ own.StandsIn type)
    (hnoted : ∀ note, .noted note ∈ events ↔
      ∃ child, Child part child ∧ .noted note ∈ child.typed.trace) :
    Settles part events type where
  usable := husable
  replaced note target h := absurd h (hreplaced note target)
  children := hchildren
  noted note := by simp [hreplaced, hnoted]

/-- A part that is neither replaced nor has children makes no notes. -/
theorem Accounts.plain {part : Part} (husable : ¬ Unusable part)
    (hreplaced : ∀ note target, ¬ Replaced part note target)
    (hchildless : ∀ child, ¬ Child part child) (type : DartType) :
    Accounts part (pure type) :=
  Settles.of_children husable hreplaced (fun child hchild => absurd hchild (hchildless child))
    fun note => by simp [hchildless]

theorem Accounts.unusable {part : Part} (h : Unusable part) :
    Accounts part ⟨[], .error .notKey⟩ :=
  .inl ⟨rfl, h⟩

theorem Says.ne_array {type only : Json} (h : Says type (.single only)) (types : List Json) :
    only ≠ .array types := by
  generalize hsaid : Alternative.single only = said at h
  induction h with
  | single htype => cases hsaid; exact htype types
  | only _ _ ih => exact ih hsaid
  | none | several => cases hsaid

theorem ite_orNull_cases (orNull : Bool) (type : DartType) :
    (if orNull then type.orNull else type) = type ∨
      (if orNull then type.orNull else type) = type.orNull := by
  cases orNull <;> simp

theorem standsIn_ite_orNull (orNull : Bool) {type other : DartType} (h : type.StandsIn other) :
    type.StandsIn (if orNull then other.orNull else other) := by
  cases orNull with
  | false => exact h
  | true => exact h.orNull

/-- A type without items and properties is one of a primitive, or replaced, or unusable. -/
theorem plainType_accounts {type : Json} (htype : Says (typeMember members) (.single type))
    (harray : ∀ items, ¬ IsArrayOf members items)
    (hrecord : ∀ properties, ¬ IsRecordOf members properties) (name : Json) (orNull : Bool) :
    Accounts ⟨.object members, name⟩
      (plainType type name >>= fun type => pure (if orNull then type.orNull else type)) := by
  have hchildless : ∀ child, ¬ Child ⟨.object members, name⟩ child := by
    rintro _ (hother | ⟨hother, _⟩)
    · exact harray _ hother
    · exact hrecord _ hother
  have hreplaced (hobject : ∀ other, type ≠ .object other)
      (hprimitive : ∀ spelling, type = .text spelling → primitive? spelling = none) :
      Accounts ⟨.object members, name⟩ ⟨[.noted (unrecognized type name)],
        .ok (if orNull then DartType.dynamic.orNull else .dynamic)⟩ :=
    .replaced (.unrecognized htype hobject hprimitive harray hrecord) (ite_orNull_cases _ _)
  match type with
  | .array types => exact absurd rfl (htype.ne_array types)
  | .object other => exact .unusable (.type htype)
  | .text spelling =>
    rw [plainType]
    cases hspelling : primitive? spelling with
    | none =>
      refine hreplaced (by simp) fun other hother => ?_
      cases hother
      exact hspelling
    | some found =>
      refine .plain ?_ ?_ hchildless _
      · rintro (hother | ⟨hother, _⟩)
        · cases htype.unique hother
        · exact hrecord _ hother
      · rintro note target (hschema | hother | hother | ⟨hother, _, hprimitive⟩)
        · exact hschema _ rfl
        · cases htype.unique hother
        · exact hrecord _ hother
        · cases htype.unique hother
          cases hspelling.symm.trans (hprimitive spelling rfl)
  | .null | .bool _ | .int _ | .float _ => exact hreplaced (by simp) (by simp)

/-- An array is typed as its items are. -/
theorem items_accounts (harray : IsArrayOf members items) (name : Json)
    {next : DartType → Typed DartType}
    (hnext : ∀ element, ∃ events type, next element = ⟨events, .ok type⟩ ∧ element.StandsIn type ∧
      ∀ note, .noted note ∉ events) :
    Accounts ⟨.object members, name⟩ (typeOf items (elementName name) >>= next) := by
  have husable : ¬ Unusable ⟨.object members, name⟩ := by
    rintro (hother | ⟨hother, _⟩)
    · cases harray.type.unique hother
    · exact harray.not_isRecordOf hother
  have hreplaced : ∀ note target, ¬ Replaced ⟨.object members, name⟩ note target :=
    fun _ _ h => h.childless (.items harray)
  unfold Accounts
  rw [Traced.outcome_bind]
  cases houtcome : (typeOf items (elementName name)).outcome with
  | error fault => exact .inr ⟨_, .items harray, houtcome⟩
  | ok element =>
    obtain ⟨events, type, heq, hstands, hnotes⟩ := hnext element
    rw [Traced.trace_bind_of_ok houtcome, ok_bind, heq]
    refine .of_children husable hreplaced (fun child hchild => ?_) fun note => ?_
    · rw [harray.child_iff.mp hchild]
      exact ⟨element, houtcome, hstands⟩
    · simp [harray.child_iff, hnotes, Part.typed]

/-- The field that a property gives to a record. -/
def field (required : List Json.Key) (property : String × Json) : Typed (Json × DartType) := do
  let type ← typeOf property.2 (.text property.1)
  let type := if required.contains (.text property.1) then type else type.orNull
  .tell (.derived property.1 type)
  return (.text property.1, type)

theorem field_outcome (required : List Json.Key) (property : String × Json) :
    (field required property).outcome =
      (typeOf property.2 (.text property.1)).outcome.map fun type =>
        (.text property.1, if required.contains (.text property.1) then type else type.orNull) := by
  rw [field, Traced.outcome_bind]
  cases (typeOf property.2 (.text property.1)).outcome <;> rfl

theorem noted_field_iff (required : List Json.Key) (property : String × Json) (note : Diagnostic) :
    .noted note ∈ (field required property).trace ↔
      .noted note ∈ (typeOf property.2 (.text property.1)).trace := by
  rw [field]
  generalize typeOf property.2 (.text property.1) = typed
  obtain ⟨events, outcome⟩ := typed
  cases outcome with
  | error fault => rfl
  | ok type =>
    change _ ∈ events ++ [Event.derived _ _] ↔ _
    simp

theorem requiredKeys_outcome (members : Json.Members) :
    Ends (fun _ => ∀ entries, members.lookup "required" = some (.array entries) →
        ∀ entry ∈ entries, entry.key? ≠ none)
      (fun fault => fault = .notKey ∧ ∃ entries, members.lookup "required" = some (.array entries) ∧
        ∃ entry ∈ entries, entry.key? = none) (requiredKeys members) := by
  cases hresult : requiredKeys members with
  | ok keys =>
    intro entries hentries entry hentry hkey
    rw [requiredKeys, hentries] at hresult
    obtain ⟨key, _, hstep⟩ := exists_of_mapM_eq_ok hresult hentry
    simp [hkey] at hstep
  | error fault =>
    unfold requiredKeys at hresult
    split at hresult
    · next hentries =>
      obtain ⟨done, entry, rest, rfl, _, hstep⟩ := mapM_eq_error_iff.mp hresult
      cases hkey : entry.key? with
      | some key => simp [hkey] at hstep
      | none =>
        simp only [hkey, Except.error.injEq] at hstep
        exact ⟨hstep.symm, _, hentries, entry, by simp, hkey⟩
    · cases hresult

/-- A record with a name is typed as its properties are, once the required keys are read. -/
theorem properties_accounts (hrecord : IsRecordOf members properties) (hname : name ≠ .null)
    {step : List Json.Key → { property // property ∈ properties } → Typed (Json × DartType)}
    (hstep : ∀ required property hmem, step required ⟨property, hmem⟩ = field required property)
    {next : List (Json × DartType) → Typed DartType}
    (hnext : ∀ fields, ∃ type, next fields = pure type ∧
      ∀ field ∈ fields, ∀ own : DartType, own.StandsIn field.2 → own.StandsIn type) :
    Accounts ⟨.object members, name⟩ (Traced.lift (requiredKeys members) >>= fun required =>
      properties.attach.mapM (step required) >>= next) := by
  have hfields : ∀ required, properties.attach.mapM (step required) =
      properties.mapM (field required) := by
    intro required
    rw [List.mapM_subtype (hstep required), List.unattach_attach]
  simp only [hfields]
  have hreplaced : ∀ note target, ¬ Replaced ⟨.object members, name⟩ note target := by
    rintro note target (hschema | hother | _ | ⟨_, _, _, _, hother⟩)
    · exact hschema _ rfl
    · cases hrecord.type.unique hother
    · exact hname rfl
    · exact hother _ hrecord
  have hkeys := requiredKeys_outcome members
  cases hrequired : requiredKeys members with
  | error fault =>
    rw [hrequired] at hkeys
    obtain ⟨rfl, entries, hentries, entry, hentry, hkey⟩ := hkeys
    exact .unusable (.required hrecord hname hentries hentry hkey)
  | ok required =>
    rw [hrequired] at hkeys
    have husable : ¬ Unusable ⟨.object members, name⟩ := by
      rintro (hother | ⟨hother, _, hentries, hentry, hkey⟩)
      · cases hrecord.type.unique hother
      · exact hkeys _ hentries _ hentry hkey
    rw [Traced.lift_ok_bind]
    unfold Accounts
    rw [Traced.outcome_bind]
    cases houtcome : (properties.mapM (field required)).outcome with
    | error fault =>
      rw [Traced.outcome_mapM] at houtcome
      obtain ⟨done, property, rest, rfl, _, hfault⟩ := mapM_eq_error_iff.mp houtcome
      rw [field_outcome, map_eq_error_iff] at hfault
      exact .inr ⟨_, (hrecord.child_iff hname).mpr ⟨property, by simp, rfl⟩, hfault⟩
    | ok fields =>
      obtain ⟨type, heq, hstands⟩ := hnext fields
      rw [Traced.trace_bind_of_ok houtcome, Traced.trace_mapM_of_ok houtcome, ok_bind, heq]
      rw [Traced.outcome_mapM] at houtcome
      refine .of_children husable hreplaced (fun child hchild => ?_) fun note => ?_
      · obtain ⟨property, hproperty, rfl⟩ := (hrecord.child_iff hname).mp hchild
        obtain ⟨result, hresult, hfield⟩ := exists_of_mapM_eq_ok houtcome hproperty
        rw [field_outcome, map_eq_ok_iff] at hfield
        obtain ⟨own, hown, rfl⟩ := hfield
        refine ⟨own, hown, hstands _ hresult own ?_⟩
        dsimp only
        split
        · exact .self own
        · exact (DartType.StandsIn.self own).orNull
      · simp only [Traced.trace_pure, List.append_nil, List.mem_flatMap, noted_field_iff,
          hrecord.child_iff hname]
        constructor
        · rintro ⟨property, hproperty, hmem⟩
          exact ⟨_, ⟨property, hproperty, rfl⟩, hmem⟩
        · rintro ⟨_, ⟨property, hproperty, rfl⟩, hmem⟩
          exact ⟨property, hproperty, hmem⟩

/-- Every part is typed as its children are. -/
theorem typeOf_accounts (schema name : Json) :
    Accounts ⟨schema, name⟩ (typeOf schema name) := by
  have hreplaced : ∀ {note : Diagnostic} {target : DartType} (orNull : Bool),
      Replaced ⟨schema, name⟩ note target → Accounts ⟨schema, name⟩
        ⟨[.noted note], .ok (if orNull then target.orNull else target)⟩ :=
    fun orNull h => .replaced h (ite_orNull_cases orNull _)
  match schema with
  | .object members =>
    have hsaid := says_declared (typeMember members)
    unfold typeMember at hsaid
    -- By what the schema says: nothing, several types, an array, a record, any other type.
    rw [typeOf]
    split
    · next hnone =>
      rw [hnone] at hsaid
      refine .plain ?_ ?_ ?_ _
      · rintro (hother | ⟨hother, _⟩)
        · cases hsaid.unique hother
        · cases hsaid.unique hother.type
      · rintro note target (hschema | hother | hother | hother)
        · exact hschema _ rfl
        · cases hsaid.unique hother
        · cases hsaid.unique hother.type
        · cases hsaid.unique hother
      · rintro _ (hother | hother)
        · cases hsaid.unique hother.type
        · cases hsaid.unique hother.type
    · next hseveral =>
      rw [hseveral] at hsaid
      exact hreplaced _ (.several hsaid)
    · next harray =>
      rw [harray] at hsaid
      have hrecord : ∀ properties, ¬ IsRecordOf members properties :=
        fun _ hother => absurd (hsaid.unique hother.type) (by simp)
      split
      · next hlookup =>
        refine plainType_accounts hsaid (fun items hother => ?_) hrecord name _
        exact hother.present (Option.some.inj (hother.given.symm.trans hlookup))
      · next hlookup =>
        refine plainType_accounts hsaid (fun items hother => ?_) hrecord name _
        cases hother.given.symm.trans hlookup
      · next items hpresent hlookup =>
        refine items_accounts ⟨hsaid, hlookup, hpresent⟩ name fun element => ?_
        have hlist : element.StandsIn (.list element) := .list (.self element)
        dsimp only
        split
        · exact ⟨_, _, rfl, standsIn_ite_orNull _ hlist, by simp [Traced.tell]⟩
        · exact ⟨_, _, rfl, standsIn_ite_orNull _ hlist, by simp⟩
    · next hobject =>
      rw [hobject] at hsaid
      have harray : ∀ items, ¬ IsArrayOf members items :=
        fun _ hother => absurd (hsaid.unique hother.type) (by simp)
      split
      · next properties hlookup =>
        have hrecord : IsRecordOf members properties := ⟨hsaid, hlookup⟩
        split
        · exact hreplaced _ (.unnamed hrecord)
        · next hname =>
          refine properties_accounts hrecord hname (fun _ _ _ => rfl) fun fields => ?_
          refine ⟨_, rfl, fun field hfield own hown => standsIn_ite_orNull _ ?_⟩
          exact .objectField hfield hown
      · next hother =>
        refine plainType_accounts hsaid harray (fun properties hrecord => ?_) name _
        exact hother properties hrecord.given
    · next type harray hobject hsingle =>
      rw [hsingle] at hsaid
      refine plainType_accounts hsaid (fun _ hother => ?_) (fun _ hother => ?_) name _
      · cases hsaid.unique hother.type
        exact harray rfl
      · cases hsaid.unique hother.type
        exact hobject rfl
  | .null | .bool _ | .int _ | .float _ | .text _ | .array _ =>
    rw [typeOf]
    · exact .replaced (.notObject (by simp)) (.inl rfl)
    · simp

theorem Child.sizeOf_lt {part child : Part} (h : Child part child) :
    sizeOf child.schema < sizeOf part.schema := by
  cases h with
  | items harray =>
    have := sizeOf_lookup harray.given
    simp
    omega
  | property hrecord _ hproperty =>
    have := sizeOf_lookup hrecord.given
    have := List.sizeOf_lt_of_mem hproperty
    simp at *
    omega

variable {part inner : Part} {type : DartType} {note : Diagnostic}

theorem Part.settles (htype : part.typed.outcome = .ok type) :
    Settles part part.typed.trace type :=
  (typeOf_accounts part.schema part.name).of_eq_ok htype

/-- A part that is come by has a type of its own, which stands in that of the whole. -/
theorem Visits.standsIn (hvisits : Visits part inner) (htype : part.typed.outcome = .ok type) :
    ∃ own, inner.typed.outcome = .ok own ∧ own.StandsIn type := by
  induction hvisits with
  | refl => exact ⟨type, htype, .self type⟩
  | tail _ hchild ih =>
    obtain ⟨outer, houter, hstands⟩ := ih
    obtain ⟨own, hown, hinner⟩ := (Part.settles houter).children _ hchild
    exact ⟨own, hown, hinner.trans hstands⟩

theorem Visits.noted (hvisits : Visits part inner) (htype : part.typed.outcome = .ok type)
    (hnoted : .noted note ∈ inner.typed.trace) : .noted note ∈ part.typed.trace := by
  induction hvisits with
  | refl => exact hnoted
  | tail hvisits hchild ih =>
    obtain ⟨outer, houter, _⟩ := Visits.standsIn hvisits htype
    exact ih (((Part.settles houter).noted note).mpr (.inr ⟨_, hchild, hnoted⟩))

/-- What is noted is that a part was replaced. -/
theorem exists_replaced_of_noted (part : Part) {type : DartType}
    (htype : part.typed.outcome = .ok type) (hnoted : .noted note ∈ part.typed.trace) :
    ∃ inner target, Visits part inner ∧ Replaced inner note target := by
  have hsettles := Part.settles htype
  rcases (hsettles.noted note).mp hnoted with ⟨target, hreplaced⟩ | ⟨child, hchild, hnoted⟩
  · exact ⟨part, target, .refl, hreplaced⟩
  · obtain ⟨own, hown, _⟩ := hsettles.children child hchild
    obtain ⟨inner, target, hvisits, hreplaced⟩ := exists_replaced_of_noted child hown hnoted
    exact ⟨inner, target, .head hchild hvisits, hreplaced⟩
termination_by sizeOf part.schema
decreasing_by exact hchild.sizeOf_lt

/-- What fails the typing is an unusable part. -/
theorem exists_unusable_of_error (part : Part) {fault : Fault}
    (hfault : part.typed.outcome = .error fault) :
    fault = .notKey ∧ ∃ inner, Visits part inner ∧ Unusable inner := by
  rcases (typeOf_accounts part.schema part.name).of_eq_error hfault with
    ⟨rfl, hunusable⟩ | ⟨child, hchild, hfault⟩
  · exact ⟨rfl, part, .refl, hunusable⟩
  · obtain ⟨heq, inner, hvisits, hunusable⟩ := exists_unusable_of_error child hfault
    exact ⟨heq, inner, .head hchild hvisits, hunusable⟩
termination_by sizeOf part.schema
decreasing_by exact hchild.sizeOf_lt

/-- Every schema has a type unless an object stands in place of a type in it, or an array or
    object in place of the name of a required property. Where there is a type, what is noted
    are the malformed parts, each under its name, and each of them is replaced in the type by a
    map or by dynamic. -/
theorem typeOf_outcome (schema name : Json) :
    ((∃ type, (typeOf schema name).outcome = .ok type) ↔
      ∀ part, Visits ⟨schema, name⟩ part → ¬ Unusable part) ∧
    (∀ fault, (typeOf schema name).outcome = .error fault → fault = .notKey) ∧
    ∀ type, (typeOf schema name).outcome = .ok type →
      (∀ note, .noted note ∈ (typeOf schema name).trace ↔
        ∃ part target, Visits ⟨schema, name⟩ part ∧ Replaced part note target) ∧
      ∀ part note target, Visits ⟨schema, name⟩ part → Replaced part note target →
        note.subject = part.name ∧
        (note.code = "json_schema_invalid" ∨ note.code = "json_schema_unnamed") ∧
        ∃ own, (typeOf part.schema part.name).outcome = .ok own ∧
          (own = target ∨ own = target.orNull) ∧ own.StandsIn type := by
  refine ⟨⟨?_, fun husable => ?_⟩, fun fault hfault => ?_,
    fun type htype => ⟨fun note => ⟨?_, ?_⟩, ?_⟩⟩
  · rintro ⟨type, htype⟩ part hvisits
    obtain ⟨own, hown, _⟩ := Visits.standsIn hvisits htype
    exact (Part.settles hown).usable
  · cases houtcome : (typeOf schema name).outcome with
    | ok type => exact ⟨type, rfl⟩
    | error fault =>
      obtain ⟨_, inner, hvisits, hunusable⟩ := exists_unusable_of_error ⟨schema, name⟩ houtcome
      exact absurd hunusable (husable inner hvisits)
  · exact (exists_unusable_of_error ⟨schema, name⟩ hfault).1
  · exact exists_replaced_of_noted ⟨schema, name⟩ htype
  · rintro ⟨part, target, hvisits, hreplaced⟩
    refine Visits.noted hvisits htype ?_
    obtain ⟨own, hown, _⟩ := Visits.standsIn hvisits htype
    exact ((Part.settles hown).noted note).mpr (.inl ⟨target, hreplaced⟩)
  · intro part note target hvisits hreplaced
    obtain ⟨own, hown, hstands⟩ := Visits.standsIn hvisits htype
    exact ⟨hreplaced.note_says.1, hreplaced.note_says.2, own, hown,
      (Part.settles hown).replaced note target hreplaced, hstands⟩

/-- A schema with an object in place of its type has no type. -/
theorem typeOf_objectType_fails :
    (typeOf (.object [("type", .object [])]) (.text "x")).outcome = .error .notKey := by
  obtain ⟨hiff, hfaults, _⟩ := typeOf_outcome (.object [("type", .object [])]) (.text "x")
  have hunusable : Unusable ⟨.object [("type", .object [])], .text "x"⟩ :=
    .type (.single (by simp [typeMember]))
  cases houtcome : (typeOf (.object [("type", .object [])]) (.text "x")).outcome with
  | ok type => exact absurd hunusable (hiff.mp ⟨type, houtcome⟩ _ .refl)
  | error fault => rw [hfaults fault houtcome]

end Schema
end DartModels
