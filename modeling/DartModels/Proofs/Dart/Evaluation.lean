import DartModels.Json.Basic
import DartModels.Proofs.Dart.Expression
import DartModels.Proofs.Json.Distinct

namespace DartModels.Dart

/-- A value that the generated code handles. An object of a class has its properties by name. -/
inductive Value where
  | null
  | bool (value : Bool)
  | int (value : Int)
  | double (value : Binary64)
  | text (value : String)
  | list (items : List Value)
  | map (entries : List (String × Value))
  | object (className : String) (properties : List (String × Value))

namespace Value

mutual

/-- A JSON value as the code is given it. -/
def ofJson : Json → Value
  | .null => .null
  | .bool value => .bool value
  | .int value => .int value
  | .float value => .double value
  | .text value => .text value
  | .array items => .list (ofItems items)
  | .object members => .map (ofMembers members)

def ofItems : List Json → List Value
  | [] => []
  | item :: items => ofJson item :: ofItems items

def ofMembers : Json.Members → List (String × Value)
  | [] => []
  | (key, value) :: members => (key, ofJson value) :: ofMembers members

end

theorem ofItems_eq (items : List Json) : ofItems items = items.map ofJson := by
  induction items with
  | nil => rfl
  | cons item items ih => rw [ofItems, ih, List.map_cons]

theorem ofMembers_append (members others : Json.Members) :
    ofMembers (members ++ others) = ofMembers members ++ ofMembers others := by
  induction members with
  | nil => rfl
  | cons member members ih => rw [List.cons_append, ofMembers, ofMembers, ih, List.cons_append]

theorem lookup_ofMembers (key : String) (members : Json.Members) :
    (ofMembers members).lookup key = (members.lookup key).map ofJson := by
  induction members with
  | nil => rfl
  | cons member members ih =>
    obtain ⟨name, value⟩ := member
    rw [ofMembers, List.lookup_cons, List.lookup_cons, ih]
    split <;> rfl

theorem ofJson_eq_null_iff {value : Json} : ofJson value = .null ↔ value = .null := by
  cases value <;> simp [ofJson]

/-- Whether a value has the shape of a type. A whole number is a `double` too. -/
def hasType : (type : String) → Value → Bool
  | "dynamic", _ => true
  | "String", .text _ => true
  | "bool", .bool _ => true
  | "int", .int _ => true
  | "double", .int _ | "double", .double _ => true
  | "List<dynamic>", .list _ => true
  | "Map<String, dynamic>", .map _ => true
  | _, _ => false

end Value

/-- The values of the names in scope. -/
abbrev Scope := List (String × Value)

/-- What code calls that stands elsewhere: the declared classes, and the functions and members
    that come with the language. -/
structure Calls where
  fromJson : String → Value → Option Value
  toJson : Value → Option Value
  library : String → Value → Option Value

/-- The value of an expression, if it has one. Null has no members to call. -/
def Expression.eval (calls : Calls) : Expression → Scope → Option Value
  | .name identifier, scope => scope.lookup identifier
  | .entry target key, scope => do
    match ← eval calls target scope with
    | .map entries => return (entries.lookup key).getD .null
    | _ => none
  | .cast value type, scope => do
    let value ← eval calls value scope
    if value.hasType type then return value else none
  | .parenthesized inner, scope => eval calls inner scope
  | .unlessNull value other, scope => do
    match ← eval calls value scope with
    | .null => return .null
    | _ => eval calls other scope
  | .mapped target parameter body, scope => do
    match ← eval calls target scope with
    | .list items =>
      return .list (← items.mapM fun item => eval calls body ((parameter, item) :: scope))
    | _ => none
  | .fromJson className json, scope => do calls.fromJson className (← eval calls json scope)
  | .toJson target, scope => do calls.toJson (← eval calls target scope)
  | .call function argument, scope => do calls.library function (← eval calls argument scope)
  | .member target property, scope => do
    match ← eval calls target scope with
    | .null => none
    | value => calls.library property value

/-- The value of an argument that is passed by name. -/
def evalArgument (calls : Calls) (scope : Scope) (argument : String × Expression) :
    Option (String × Value) := do
  return (argument.1, ← argument.2.eval calls scope)

/-- The property that a parameter of a constructor sets. Only what is not required may be left
    out. -/
def Parameter.property (arguments : Scope) (parameter : Parameter) : Option (String × Value) :=
  match arguments.lookup parameter.name with
  | some value => some (parameter.name, value)
  | none => if parameter.isRequired then none else some (parameter.name, .null)

/-- The entry of a map, unless what it depends on is null. -/
def MapEntry.eval (calls : Calls) (scope : Scope) (entry : MapEntry) :
    Option (List (String × Value)) := do
  match ← scope.lookup entry.condition with
  | .null => return []
  | _ => return [(entry.key, ← entry.value.eval calls scope)]

namespace RecordCode

/-- The object that is built from an object of JSON. -/
def build (code : RecordCode) (calls : Calls) (json : Value) : Option Value := do
  let arguments ← code.read.mapM (evalArgument calls [("jsonObject", json)])
  return .object code.className (← code.parameters.mapM (Parameter.property arguments))

/-- The JSON form of an object with some properties. -/
def write (code : RecordCode) (calls : Calls) (properties : Scope) : Option Value := do
  let arguments ← code.forwarded.mapM (evalArgument calls properties)
  let scope := code.optional.map fun parameter =>
    (parameter.2, (arguments.lookup parameter.2).getD .null)
  return .map (← code.entries.mapM (MapEntry.eval calls scope)).flatten

end RecordCode

/-- The calls of declared classes, as far as no more than so many of them are under way at the
    same time. -/
def callsWithin (library : String → Value → Option Value) (classes : List RecordCode) :
    (depth : Nat) → Calls
  | 0 => { fromJson := fun _ _ => none, toJson := fun _ => none, library }
  | depth + 1 =>
    { fromJson := fun className json => do
        let code ← classes.find? (·.className == className)
        match json with
        | .map _ => code.build (callsWithin library classes depth) json
        | _ => none
      toJson := fun value =>
        match value with
        | .object className properties => do
          let code ← classes.find? (·.className == className)
          code.write (callsWithin library classes depth) properties
        | _ => none
      library }

section

variable {α β : Type} {step : α → Option β} {xs : List α}

theorem mapM_eq_some {value : α → β} (hstep : ∀ x ∈ xs, step x = some (value x)) :
    xs.mapM step = some (xs.map value) := by
  induction xs with
  | nil => rfl
  | cons x xs ih =>
    rw [List.forall_mem_cons] at hstep
    rw [List.mapM_cons, hstep.1, ih hstep.2]
    rfl

theorem mapM_eq_none {x : α} (hx : x ∈ xs) (hstep : step x = none) : xs.mapM step = none := by
  induction xs with
  | nil => cases hx
  | cons y ys ih =>
    rw [List.mapM_cons]
    rcases List.mem_cons.mp hx with rfl | hx
    · rw [hstep]
      rfl
    · rw [ih hx]
      cases step y <;> rfl

/-- Where names are distinct, each one has its own value. -/
theorem lookup_map_of_nodup {name : α → String} {value : α → β}
    (hnodup : (xs.map name).Nodup) {x : α} (hx : x ∈ xs) :
    (xs.map fun x => (name x, value x)).lookup (name x) = some (value x) := by
  have hnames : ((xs.map fun x => (name x, value x)).map Prod.fst).Nodup := by
    simpa [Function.comp_def] using hnodup
  exact (Json.lookup_eq_some_iff hnames).mpr (List.mem_map.mpr ⟨x, hx, rfl⟩)

end

namespace Expression

variable {calls : Calls} {scope : Scope} {value target body other : Expression} {result : Value}

theorem eval_entry {entries : List (String × Value)}
    (h : target.eval calls scope = some (.map entries)) (key : String) :
    (entry target key).eval calls scope = some ((entries.lookup key).getD .null) := by
  rw [eval, h]
  rfl

theorem eval_cast {type : String} (h : value.eval calls scope = some result)
    (htype : result.hasType type) : (cast value type).eval calls scope = some result := by
  rw [eval, h]
  exact if_pos htype

theorem eval_unlessNull_null (h : value.eval calls scope = some .null) :
    (unlessNull value other).eval calls scope = some .null := by
  rw [eval, h]
  rfl

theorem eval_unlessNull (h : value.eval calls scope = some result) (hresult : result ≠ .null) :
    (unlessNull value other).eval calls scope = other.eval calls scope := by
  rw [eval, h]
  cases result with
  | null => exact absurd rfl hresult
  | _ => rfl

theorem eval_mapped {items : List Value} (h : target.eval calls scope = some (.list items))
    (parameter : String) :
    (mapped target parameter body).eval calls scope =
      (items.mapM fun item => body.eval calls ((parameter, item) :: scope)).map .list := by
  rw [eval, h]
  simp only [Option.bind_eq_bind, Option.bind_some]
  cases items.mapM fun item => body.eval calls ((parameter, item) :: scope) <;> rfl

end Expression

namespace MapEntry

variable {calls : Calls} {scope : Scope} {entry : MapEntry}

theorem eval_of_null (h : scope.lookup entry.condition = some .null) :
    entry.eval calls scope = some [] := by
  rw [eval, h]
  rfl

theorem eval_of_present {value : Value} (h : scope.lookup entry.condition = some value)
    (hvalue : value ≠ .null) :
    entry.eval calls scope =
      (entry.value.eval calls scope).map fun result => [(entry.key, result)] := by
  rw [eval, h]
  cases value with
  | null => exact absurd rfl hvalue
  | _ => cases entry.value.eval calls scope <;> rfl

end MapEntry

namespace RecordClass

/-- The properties of an object, each with its value. -/
def propertiesOf (record : RecordClass) (value : Json × DartType → Value) : Scope :=
  record.members.map fun member => (property member.1, value member)

variable {record : RecordClass}
  (hproperties : (record.members.map fun member => property member.1).Nodup)
include hproperties

theorem lookup_propertiesOf (value : Json × DartType → Value) {member : Json × DartType}
    (hmember : member ∈ record.members) :
    (record.propertiesOf value).lookup (property member.1) = some (value member) :=
  lookup_map_of_nodup hproperties hmember

/-- An object has the values that are read for its properties. -/
theorem build_eq {calls : Calls} {json : Value} {value : Json × DartType → Value}
    (hread : ∀ member ∈ record.members,
      (reading member).2.eval calls [("jsonObject", json)] = some (value member)) :
    record.code.build calls json = some (.object record.className (record.propertiesOf value)) := by
  have harguments : record.code.read.mapM (evalArgument calls [("jsonObject", json)]) =
      some (record.propertiesOf value) := by
    rw [code_read, List.mapM_map]
    refine mapM_eq_some fun member hmember => ?_
    simp only [Function.comp_apply, evalArgument, hread member hmember, Option.bind_eq_bind,
      Option.bind_some, Option.pure_def, reading_fst]
  have hset : record.code.parameters.mapM (Parameter.property (record.propertiesOf value)) =
      some (record.propertiesOf value) := by
    rw [code_parameters, List.mapM_map]
    refine mapM_eq_some fun member hmember => ?_
    simp only [Function.comp_apply, Parameter.property, parameter,
      lookup_propertiesOf hproperties value hmember]
  unfold RecordCode.build
  rw [harguments]
  simp only [Option.bind_eq_bind, Option.bind_some, hset, Option.pure_def]
  rfl

/-- The JSON form of an object has the entries of its properties, in order. -/
theorem write_eq (calls : Calls) (value : Json × DartType → Value) :
    record.code.write calls (record.propertiesOf value) =
      (record.code.entries.mapM (MapEntry.eval calls (record.propertiesOf value))).map
        fun entries => .map entries.flatten := by
  have harguments : record.code.forwarded.mapM (evalArgument calls (record.propertiesOf value)) =
      some (record.propertiesOf value) := by
    rw [code_forwarded, List.mapM_map]
    refine mapM_eq_some fun member hmember => ?_
    simp only [Function.comp_apply, evalArgument, Expression.eval,
      lookup_propertiesOf hproperties value hmember, Option.bind_eq_bind, Option.bind_some,
      Option.pure_def]
  have hscope : record.code.optional.map (fun parameter =>
      (parameter.2, ((record.propertiesOf value).lookup parameter.2).getD .null)) =
      record.propertiesOf value := by
    rw [code_optional, List.map_map]
    refine List.map_congr_left fun member hmember => ?_
    simp only [Function.comp_apply, lookup_propertiesOf hproperties value hmember, Option.getD_some]
  unfold RecordCode.write
  rw [harguments]
  simp only [Option.bind_eq_bind, Option.bind_some, hscope]
  cases record.code.entries.mapM (MapEntry.eval calls (record.propertiesOf value)) <;> rfl

end RecordClass
end DartModels.Dart
