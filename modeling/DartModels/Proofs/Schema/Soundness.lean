import DartModels.Proofs.Schema.Validity
import DartModels.Proofs.Traced
import DartModels.Schema.Typing

namespace DartModels.Schema

/-- The type of a primitive holds the values of that type. -/
theorem conforms_of_primitive? {spelling : String} {target : DartType}
    (htarget : primitive? spelling = some target) {value : Json}
    (hvalue : IsOfType spelling value) : Conforms target value := by
  unfold primitive? at htarget
  split at htarget
  · cases htarget
    obtain ⟨text, rfl⟩ := hvalue
    exact .string text
  · cases htarget
    obtain ⟨number, rfl⟩ := hvalue
    exact .int number
  · cases htarget
    obtain ⟨number, rfl⟩ | ⟨number, rfl⟩ := hvalue
    · exact .whole number
    · exact .double number
  · cases htarget
    obtain ⟨truth, rfl⟩ := hvalue
    exact .bool truth
  · cases htarget
    exact (Conforms.dynamic value).orNull
  · cases htarget

/-- What is typed by its name alone holds all that meets the name. -/
theorem plainType_ends {type : Json} (hlist : ∀ types, type ≠ .array types)
    (hobject : ∀ members, type ≠ .object members) (name : Json) :
    Ends (fun target => ∀ value, MeetsType type value → Conforms target value) (fun _ => False)
      (plainType type name).outcome := by
  cases type with
  | array types => exact absurd rfl (hlist types)
  | object members => exact absurd rfl (hobject members)
  | text spelling =>
    rw [plainType]
    cases htarget : primitive? spelling with
    | none => exact fun value _ => .dynamic value
    | some target => exact fun value hvalue => conforms_of_primitive? htarget hvalue
  | _ => exact fun value _ => .dynamic value

/-- The keys of the properties that must be there are those of their names. -/
theorem requiredKeys_ends {members : Json.Members}
    (hrequired : ∀ names, members.lookup "required" = some (.array names) →
      ∀ name ∈ names, name.isText) :
    Ends (fun keys => ∀ key, .text key ∈ keys →
        ∃ names, members.lookup "required" = some (.array names) ∧ .text key ∈ names)
      (fun _ => False) (requiredKeys members) := by
  unfold requiredKeys
  split
  · next names hnames =>
    refine (Ends.mapM (fun name key => name.key? = some key) fun name hname => ?_).imp
      (fun keys hkeys key hkey => ?_) fun _ => False.elim
    · have htext := hrequired names hnames name hname
      cases name with
      | text spelling => rfl
      | _ => cases htext
    · obtain ⟨name, hname, hnameKey⟩ := hkeys _ hkey
      refine ⟨names, hnames, ?_⟩
      have htext := hrequired names hnames name hname
      cases name with
      | text spelling =>
        cases hnameKey
        exact hname
      | _ => cases htext
  · exact fun key hkey => by cases hkey

section

variable {members : Json.Members} {value : Json} (hvalid : Valid (.object members) value)
include hvalid

/-- A list whose elements hold what is valid for the items holds a valid array. -/
theorem Valid.conforms_list {items : Json} (hitems : members.lookup "items" = some items)
    (hpresent : items ≠ .null) (harray : IsOfType "array" value) {element : DartType}
    (helement : ∀ value, Valid items value → Conforms element value) :
    Conforms (.list element) value := by
  obtain ⟨_, _, _, hvalidItems⟩ := hvalid
  obtain ⟨elements, rfl⟩ := harray
  refine .list fun item hitem => ?_
  exact helement item (hvalidItems items hitems hpresent elements rfl item hitem)

/-- A record holds a valid object if each of its fields holds what is valid for the
    property, and null besides where the property need not be there. -/
theorem Valid.conforms_object {properties : Json.Members}
    (hproperties : members.lookup "properties" = some (.object properties))
    (hobject : IsOfType "object" value) {keys : List Json.Key}
    (hkeys : ∀ key, .text key ∈ keys →
      ∃ names, members.lookup "required" = some (.array names) ∧ .text key ∈ names)
    {fields : List (Json × DartType)}
    (hfields : ∀ field ∈ fields, ∃ entry ∈ properties, ∃ type : DartType,
      (∀ value, Valid entry.2 value → Conforms type value) ∧
        field = (.text entry.1, if keys.contains (.text entry.1) then type else type.orNull))
    (name : Json) : Conforms (.object name fields) value := by
  obtain ⟨_, hvalidProperties, hvalidRequired, _⟩ := hvalid
  obtain ⟨values, rfl⟩ := hobject
  refine .object name fun field hfield => ?_
  obtain ⟨⟨key, property⟩, hentry, type, htype, rfl⟩ := hfields field hfield
  have hholds : ∀ value, values.lookup key = some value → Conforms type value := by
    intro value hvalue
    apply htype
    exact hvalidProperties properties hproperties values rfl key property hentry value hvalue
  change Conforms (if keys.contains (.text key) then type else type.orNull)
    ((values.lookup key).getD .null)
  cases hlookup : values.lookup key with
  | some value =>
    split
    · exact hholds value hlookup
    · exact (hholds value hlookup).orNull
  | none =>
    -- Only a property that need not be there can be missing.
    have hfree : ¬ keys.contains (.text key) := by
      intro hmem
      obtain ⟨names, hnames, hname⟩ := hkeys key (List.contains_iff_mem.mp hmem)
      simpa [hlookup] using hvalidRequired names hnames values rfl key hname
    rw [if_neg hfree]
    exact conforms_orNull_null type

end

/-- A type holds all that is valid against a schema. -/
def Holds (schema : Json) (target : DartType) : Prop :=
  ∀ value, Valid schema value → Conforms target value

/-- How the members of a schema state its type. -/
def typeMember (members : Json.Members) : Json :=
  (members.lookup "type").getD .null

/-- A type holds all that is valid against the members of a schema, apart from a null that
    is allowed beside it. -/
def HoldsBesideNull (members : Json.Members) (target : DartType) : Prop :=
  ∀ value, Valid (.object members) value →
    Conforms target value ∨ (declared (typeMember members)).orNull ∧ value = .null

/-- Null is added where it is allowed. -/
theorem HoldsBesideNull.holds {members : Json.Members} {target : DartType}
    (h : HoldsBesideNull members target) :
    Holds (.object members)
      (if (declared (typeMember members)).orNull then target.orNull else target) := by
  intro value hvalid
  rcases h value hvalid with hvalue | ⟨hnull, rfl⟩
  · split
    · exact hvalue.orNull
    · exact hvalue
  · rw [if_pos hnull]
    exact conforms_orNull_null target

theorem holdsBesideNull_of_single {members : Json.Members}
    (htype : IsPlainType (typeMember members)) {only : Json}
    (honly : (declared (typeMember members)).alternative = .single only) {target : DartType}
    (htarget : ∀ value, Valid (.object members) value → MeetsType only value →
      Conforms target value) : HoldsBesideNull members target := by
  intro value hvalid
  have hmeets := hvalid
  obtain ⟨hmeets, _⟩ := hmeets
  exact ((declared_single htype honly).2.2 value hmeets).imp_left (htarget value hvalid)

theorem plainType_holds {members : Json.Members} (htype : IsPlainType (typeMember members))
    {only : Json} (honly : (declared (typeMember members)).alternative = .single only)
    (name : Json) :
    Ends (HoldsBesideNull members) (fun _ => False) (plainType only name).outcome := by
  obtain ⟨hlist, hobject, _⟩ := declared_single htype honly
  refine (plainType_ends hlist hobject name).imp (fun target htarget => ?_) fun _ => False.elim
  exact holdsBesideNull_of_single htype honly fun value _ => htarget value

/-- A plain schema is typed under every name, and its type holds all that is valid. -/
theorem typeOf_ends {schema : Json} (hplain : Plain schema) (name : Json) :
    Ends (Holds schema) (fun _ => False) (typeOf schema name).outcome := by
  induction hplain generalizing name with
  | @intro members htype hrequired hproperties hitems ihproperties ihitems =>
    -- Every branch ends with a type that holds all but null.
    have hfinish : ∀ target : DartType, HoldsBesideNull members target →
        Ends (Holds (.object members)) (fun _ => False)
          (Except.ok (if (declared (typeMember members)).orNull then target.orNull
            else target) : Except Fault DartType) := fun _ h => h.holds
    rw [typeOf]
    split
    · exact hfinish _ fun value _ => .inl (Conforms.dynamic value).orNull
    · exact hfinish _ fun value _ => .inl (.dynamic value)
    · next honly =>
      split
      · rw [Traced.outcome_bind]
        exact (plainType_holds htype honly name).bind hfinish
      · rw [Traced.outcome_bind]
        exact (plainType_holds htype honly name).bind hfinish
      · next items hpresent hlookup =>
        rw [Traced.outcome_bind]
        refine (ihitems items hlookup hpresent _).bind fun element helement => ?_
        have hlist : HoldsBesideNull members (.list element) :=
          holdsBesideNull_of_single htype honly fun value hvalid harray =>
            hvalid.conforms_list hlookup hpresent harray helement
        dsimp only
        split
        · exact hfinish _ hlist
        · exact hfinish _ hlist
    · next honly =>
      split
      · next properties hlookup =>
        split
        · refine hfinish _ (holdsBesideNull_of_single htype honly fun value _ hobject => ?_)
          obtain ⟨fields, rfl⟩ := hobject
          exact .map _ _ fields
        · rw [Traced.outcome_bind]
          refine (requiredKeys_ends hrequired).bind fun keys hkeys => ?_
          rw [Traced.outcome_bind, Traced.outcome_mapM]
          refine Ends.bind (Ends.mapM (fun entry field => ∃ type : DartType,
            Holds entry.1.2 type ∧ field = (.text entry.1.1,
              if keys.contains (.text entry.1.1) then type else type.orNull)) ?_)
            fun fields hfields => ?_
          · rintro ⟨⟨key, property⟩, hmem⟩ _
            dsimp only
            rw [Traced.outcome_bind]
            refine (ihproperties properties hlookup key property hmem _).bind fun type hholds => ?_
            exact ⟨type, hholds, rfl⟩
          · refine hfinish _ (holdsBesideNull_of_single htype honly fun value hvalid hobject => ?_)
            refine hvalid.conforms_object hlookup hobject hkeys (fun field hfield => ?_) name
            obtain ⟨⟨entry, hentry⟩, _, type, hholds, heq⟩ := hfields field hfield
            exact ⟨entry, hentry, type, hholds, heq⟩
      · rw [Traced.outcome_bind]
        exact (plainType_holds htype honly name).bind hfinish
    · next honly =>
      rw [Traced.outcome_bind]
      exact (plainType_holds htype honly name).bind hfinish

/-- The type of a plain schema is found under every name, and every value that is valid
    against the schema conforms to it. -/
theorem typeOf_sound {schema : Json} (hplain : Plain schema) (name : Json) :
    ∃ type, (typeOf schema name).outcome = .ok type ∧
      ∀ value, Valid schema value → Conforms type value := by
  cases houtcome : (typeOf schema name).outcome with
  | error fault => exact ((typeOf_ends hplain name).of_eq_error houtcome).elim
  | ok type => exact ⟨type, rfl, (typeOf_ends hplain name).of_eq_ok houtcome⟩

/-- The schema of a person who may have no nickname. -/
def personSchema : Json :=
  .object [("type", .text "object"), ("required", .array [.text "name"]),
    ("properties", .object [("name", .object [("type", .text "string")]),
      ("nicknames", .object [("type", .array [.text "array", .text "null"]),
        ("items", .object [("type", .text "string")])])])]

theorem plain_personSchema : Plain personSchema := by
  have htext : Plain (.object [("type", .text "string")]) := by
    constructor <;> simp [List.lookup_cons, IsPlainType]
  have hlist : Plain (.object [("type", .array [.text "array", .text "null"]),
      ("items", .object [("type", .text "string")])]) := by
    constructor <;> simp [List.lookup_cons, IsPlainType, Json.isText, htext]
  constructor <;>
    simp [List.lookup_cons, IsPlainType, Json.isText, or_imp, forall_and, htext, hlist]

theorem valid_personSchema : Valid personSchema (.object [("name", .text "Grace")]) := by
  have hname : Valid (.object [("type", .text "string")]) (.text "Grace") := by
    constructor <;> simp [List.lookup_cons, MeetsTypes, MeetsType, IsOfType]
  constructor <;>
    simp [List.lookup_cons, MeetsTypes, MeetsType, IsOfType, or_imp, forall_and, hname]

/-- A person without nicknames conforms to the type of a person. -/
theorem typeOf_personSchema_sound :
    Plain personSchema ∧ ∃ type, (typeOf personSchema (.text "person")).outcome = .ok type ∧
      Conforms type (.object [("name", .text "Grace")]) := by
  obtain ⟨type, htype, hsound⟩ := typeOf_sound plain_personSchema (.text "person")
  exact ⟨plain_personSchema, type, htype, hsound _ valid_personSchema⟩

end DartModels.Schema
