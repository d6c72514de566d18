import DartModels.Proofs.Resolution.Composite
import DartModels.Proofs.Resolution.Listing
import DartModels.Proofs.Resolution.Override

namespace DartModels

open Catalog (Required RefersTo)

namespace Generator

variable {generator : Generator} {first second : Snapshot} {resolution other : Resolution}
  {run : Run generator first resolution} {otherRun : Run generator second other}

/-- A set of types that two runs settle alike: what they refer to is in the set, and stands
    before them in both runs or in none. -/
structure Aligned (run : Run generator first resolution) (otherRun : Run generator second other)
    (set : CatalogType → Prop) : Prop where
  required : ∀ type, set type → type ∈ resolution.requiredTypes
  otherRequired : ∀ type, set type → type ∈ other.requiredTypes
  closed : ∀ type, set type → ∀ needed ∈ first.types, RefersTo type needed → set needed
  alike : ∀ type, set type → ∀ needed ∈ first.types, RefersTo type needed →
    ([needed, type].Sublist resolution.requiredTypes ↔ [needed, type].Sublist other.requiredTypes)

section

variable (hfirst : first.WellTyped) (hsecond : second.WellTyped)
  (htypes : Catalog.Unambiguous first.types) (hsame : second.types = first.types)
  {set : CatalogType → Prop} (haligned : Aligned run otherRun set)
include hfirst hsecond htypes hsame haligned

section

variable {before after otherBefore otherAfter : List CatalogType} {type : CatalogType}
  (hrequired : resolution.requiredTypes = before ++ type :: after)
  (hotherRequired : other.requiredTypes = otherBefore ++ type :: otherAfter)
  (step : Step run before type) (otherStep : Step otherRun otherBefore type) (hset : set type)
  (hbefore : ∀ needed ∈ before, set needed →
    resolution.registry.withId? needed.id = other.registry.withId? needed.id)
include hrequired hotherRequired hset hbefore

/-- What a type refers to is registered alike before it in both runs, or in neither. -/
theorem Aligned.withId?_eq_before {needed : CatalogType} (hneeded : needed ∈ first.types)
    (hrefers : RefersTo type needed) :
    step.registry.withId? needed.id = otherStep.registry.withId? needed.id := by
  have hmem : needed ∈ before ↔ needed ∈ otherBefore := by
    have hnodup := (run.requiredTypes_nodup hfirst).of_map
    have hotherNodup := (otherRun.requiredTypes_nodup hsecond).of_map
    have halike := haligned.alike type hset needed hneeded hrefers
    rw [hrequired] at hnodup halike
    rw [hotherRequired] at hotherNodup halike
    rwa [Catalog.pair_sublist_iff_mem hnodup, Catalog.pair_sublist_iff_mem hotherNodup] at halike
  -- Registered in both runs, a target does not change until their end. There the targets are
  -- the same, since the first run settled the type that is needed before this one.
  by_cases hin : needed ∈ before
  · obtain ⟨target, hstep, hend⟩ := step.withId?_eq hin
    obtain ⟨otherTarget, hotherStep, hotherEnd⟩ := otherStep.withId?_eq (hmem.mp hin)
    have heq := hbefore needed hin (haligned.closed type hset needed hneeded hrefers)
    rw [hstep, hotherStep, ← hend, ← hotherEnd, heq]
  · have hid := htypes.ids needed hneeded
    have hnew := htypes.id_notMem hneeded
      (fun _ => run.mem_types_of_before hfirst hrequired) hin
    have hotherNew := htypes.id_notMem hneeded
      (fun _ h => hsame ▸ otherRun.mem_types_of_before hsecond hotherRequired h) (hmem.not.mp hin)
    rw [step.withId?_eq_none hid hnew, otherStep.withId?_eq_none hid hotherNew]

theorem Aligned.target_eq : step.target = otherStep.target := by
  have hneeded : ∀ needed ∈ first.types, RefersTo type needed →
      step.registry.withId? needed.id = otherStep.registry.withId? needed.id := fun _ =>
    haligned.withId?_eq_before hfirst hsecond htypes hsame hrequired hotherRequired step otherStep
      hset hbefore
  have hsub : ∀ needed ∈ before, needed ∈ first.types := fun _ =>
    run.mem_types_of_before hfirst hrequired
  have hotherSub : ∀ needed ∈ otherBefore, needed ∈ first.types := fun _ h =>
    hsame ▸ otherRun.mem_types_of_before hsecond hotherRequired h
  have hmem : type ∈ first.types := run.mem_types hfirst (haligned.required type hset)
  have htype := hfirst.types type hmem
  -- The rules look for two kinds of types: by name for the elements of an array, by id for
  -- attributes. Each may also be missing from the catalog, and then is so in both runs.
  have helement : type.isArray → step.registry.findNamed? type.base =
      otherStep.registry.findNamed? type.base := by
    intro harray
    by_cases hexists : ∃ element ∈ first.types, element.name = .text type.base
    · obtain ⟨element, helement, hname⟩ := hexists
      obtain ⟨typeName, htypeName⟩ := htype.name
      have hisArray : Catalog.IsArrayOf type.name element.name := by
        rw [htypeName, hname, Catalog.isArrayOf_text_iff]
        exact ⟨CatalogType.isArray_eq htypeName ▸ harray, (CatalogType.base_eq htypeName).symm⟩
      rw [step.settled.findNamed?_eq htypes hsub helement hname,
        otherStep.settled.findNamed?_eq htypes hotherSub helement hname]
      exact hneeded element helement (.inr hisArray)
    · push Not at hexists
      rw [step.settled.findNamed?_eq_none fun needed h => hexists needed (hsub needed h),
        otherStep.settled.findNamed?_eq_none fun needed h => hexists needed (hotherSub needed h)]
  have hparts : ∀ part ∈ type.attributes, part.typeId.equals type.id = false →
      step.registry.withId? part.typeId = otherStep.registry.withId? part.typeId := by
    intro part hpart _
    by_cases hexists : ∃ needed ∈ first.types, needed.id = part.typeId
    · obtain ⟨needed, hmemNeeded, hid⟩ := hexists
      rw [← hid]
      exact hneeded needed hmemNeeded (.inl ⟨part, hpart, congrArg Json.key? hid.symm⟩)
    · push Not at hexists
      have hid := (htype.parts part hpart).2
      rw [step.withId?_eq_none_of_missing hfirst hrequired hid hexists,
        otherStep.withId?_eq_none_of_missing hsecond hotherRequired hid (hsame ▸ hexists)]
  have hmaps := Mapping.target_congr htype generator.locales helement hparts
  rw [step.maps, otherStep.maps] at hmaps
  simpa using congrArg Traced.outcome hmaps

end

/-- Types of an aligned set have the same targets in both runs. -/
theorem Aligned.withId?_eq {type : CatalogType} (hset : set type) :
    resolution.registry.withId? type.id = other.registry.withId? type.id := by
  suffices h : ∀ (length : Nat) (before after : List CatalogType) (type : CatalogType),
      before.length = length → resolution.requiredTypes = before ++ type :: after → set type →
      resolution.registry.withId? type.id = other.registry.withId? type.id by
    obtain ⟨before, after, hrequired⟩ := List.append_of_mem (haligned.required type hset)
    exact h _ before after type rfl hrequired hset
  -- The induction is on the place of the type in the first run.
  intro length
  induction length using Nat.strong_induction_on with
  | _ length ih =>
    intro before after type hlength hrequired hset
    obtain ⟨otherBefore, otherAfter, hotherRequired⟩ :=
      List.append_of_mem (haligned.otherRequired type hset)
    obtain ⟨step⟩ := run.exists_step hrequired
    obtain ⟨otherStep⟩ := otherRun.exists_step hotherRequired
    have hbefore : ∀ needed ∈ before, set needed →
        resolution.registry.withId? needed.id = other.registry.withId? needed.id := by
      intro needed hin hsetNeeded
      obtain ⟨front, back, rfl⟩ := List.append_of_mem hin
      refine ih front.length ?_ front (back ++ type :: after) needed rfl ?_ hsetNeeded
      · rw [← hlength, List.length_append, List.length_cons]
        omega
      · rw [hrequired, List.append_assoc, List.cons_append]
    have htarget := haligned.target_eq hfirst hsecond htypes hsame hrequired hotherRequired step
      otherStep hset hbefore
    rw [Registry.withId?, Registry.withId?, step.entry, otherStep.entry, htarget]

end

/-- Where ids tell types apart, a type that is no array stands behind all that it refers to but
    itself. -/
theorem Run.sublist_plain_iff (run : Run generator first resolution) (htyped : first.WellTyped)
    (hids : (first.types.map (·.id)).Nodup) {type needed : CatalogType}
    (hrequired : type ∈ resolution.requiredTypes) (hplain : type.isArray = false)
    (hneeded : needed ∈ first.types) (hrefers : RefersTo type needed) :
    [needed, type].Sublist resolution.requiredTypes ↔ needed ≠ type := by
  constructor
  · rintro hpair rfl
    have hnodup := (run.requiredTypes_nodup htyped).of_map.sublist hpair
    simp at hnodup
  · intro hother
    have htype := run.mem_types htyped hrequired
    obtain ⟨name, hname⟩ := (htyped.types type htype).name
    obtain ⟨neededName, hneededName⟩ := (htyped.types needed hneeded).name
    rcases hrefers with ⟨part, hpart, hkey⟩ | harray
    · have hself : needed.id ≠ type.id := fun heq =>
        hother (List.inj_on_of_nodup_map hids hneeded htype heq)
      obtain ⟨found, hfound, hpair⟩ := Catalog.attribute_before_plain htyped.catalog htyped.formats
        run.requires hrequired hplain hpart hneeded hkey hself
      have hmem := run.mem_types htyped (hpair.subset List.mem_cons_self)
      cases List.inj_on_of_nodup_map hids hmem hneeded hfound
      exact hpair
    · rw [hname, hneededName, Catalog.isArrayOf_text_iff, ← CatalogType.isArray_eq hname,
        hplain] at harray
      exact absurd harray.1 (by simp)

theorem Run.mem_requiredTypes (run : Run generator first resolution) (htyped : first.WellTyped)
    (hids : (first.types.map (·.id)).Nodup) (hnames : (first.types.map (·.name)).Nodup)
    {column : Column} (hcolumn : column ∈ first.columns) {type : CatalogType}
    (htype : Required first.types [column] type) : type ∈ resolution.requiredTypes := by
  rw [Catalog.mem_requiredTypes_iff htyped.catalog hids hnames htyped.formats run.requires]
  exact htype.mono (by simpa using hcolumn)

/-- Whatever else a snapshot has, the types that a column leads to are settled alike, as long
    as its arrays stand on the same side of what they refer to. -/
theorem aligned_of_column {columns : List Column} (htyped : first.WellTyped)
    (hothers : { first with columns }.WellTyped) (hids : (first.types.map (·.id)).Nodup)
    (hnames : (first.types.map (·.name)).Nodup) (run : Run generator first resolution)
    (otherRun : Run generator { first with columns } other) {column : Column}
    (hcolumn : column ∈ first.columns) (hother : column ∈ columns)
    (halike : ∀ type needed, Required first.types [column] type → type.isArray →
      needed ∈ first.types → RefersTo type needed →
      ([needed, type].Sublist resolution.requiredTypes ↔
        [needed, type].Sublist other.requiredTypes)) :
    Aligned run otherRun (Required first.types [column]) where
  required _ := run.mem_requiredTypes htyped hids hnames hcolumn
  otherRequired _ := otherRun.mem_requiredTypes hothers hids hnames hother
  closed _ htype _ hneeded hrefers := htype.referred hneeded hrefers
  alike type htype needed hneeded hrefers := by
    cases hplain : type.isArray with
    | true => exact halike type needed htype hplain hneeded hrefers
    | false =>
      have hrequired := run.mem_requiredTypes htyped hids hnames hcolumn htype
      have hotherRequired := otherRun.mem_requiredTypes hothers hids hnames hother htype
      rw [run.sublist_plain_iff htyped hids hrequired hplain hneeded hrefers,
        otherRun.sublist_plain_iff hothers hids hotherRequired hplain hneeded hrefers]

theorem Aligned.findNamed?_format_eq {columns : List Column} (htyped : first.WellTyped)
    (hothers : { first with columns }.WellTyped) (htypes : Catalog.Unambiguous first.types)
    {otherRun : Run generator { first with columns } other} {column : Column}
    (hformat : ∃ format, column.format = .text format)
    (haligned : Aligned run otherRun (Required first.types [column])) :
    resolution.registry.findNamed? column.format.spelling =
      other.registry.findNamed? column.format.spelling := by
  obtain ⟨format, hformat⟩ := hformat
  have hspelling : column.format.spelling = format := by rw [hformat]; rfl
  rw [hspelling, run.findNamed?_eq, otherRun.findNamed?_eq]
  by_cases hexists : ∃ type ∈ first.types, type.name = .text format
  · obtain ⟨type, htype, hname⟩ := hexists
    have hset : Required first.types [column] type :=
      .named List.mem_cons_self htype (hname.trans hformat.symm)
    rw [run.settled.findNamed?_eq htypes (fun _ => run.mem_types htyped) htype hname,
      otherRun.settled.findNamed?_eq htypes (fun _ => otherRun.mem_types hothers) htype hname,
      ← run.withId?_eq, ← otherRun.withId?_eq]
    exact haligned.withId?_eq htyped hothers htypes rfl hset
  · push Not at hexists
    rw [run.settled.findNamed?_eq_none fun type h => hexists type (run.mem_types htyped h),
      otherRun.settled.findNamed?_eq_none fun type h =>
        hexists type (otherRun.mem_types hothers h)]

/-- The type of a column does not change when a column of another table goes. It does so where
    the other one gives its name a schema that no later column takes back, or where one of the
    arrays that the column leads to comes to stand on the other side of what it refers to. -/
theorem columnType_without (generator : Generator) {snapshot : Snapshot}
    {before after : List Column} {column dropped : Column} (htyped : snapshot.WellTyped)
    (hids : (snapshot.types.map (·.id)).Nodup) (hnames : (snapshot.types.map (·.name)).Nodup)
    (hcolumns : snapshot.columns = before ++ dropped :: after) (hcolumn : column ∈ snapshot.columns)
    (htable : column.tableId ≠ dropped.tableId) {resolution without : Resolution}
    (hresolve : generator.resolve snapshot = .ok resolution)
    (hwithout : generator.resolve { snapshot with columns := before ++ after } = .ok without)
    (hhidden : column.holdsJson → dropped.name = column.name →
      (∃ type, (dropped.schemaType generator.functions).outcome = .ok (some type)) →
      ∃ later ∈ after, later.name = column.name ∧
        ∃ type, (later.schemaType generator.functions).outcome = .ok (some type))
    (halike : ∀ type needed, Required snapshot.types [column] type → type.isArray →
      needed ∈ snapshot.types → RefersTo type needed →
      ([needed, type].Sublist resolution.requiredTypes ↔
        [needed, type].Sublist without.requiredTypes)) (forInsert : Bool) :
    ∃ type, column.type resolution.registry forInsert = .ok type ∧
      column.type without.registry forInsert = .ok type := by
  have hsub : ∀ other ∈ before ++ after, other ∈ snapshot.columns := by
    intro other hother
    rw [hcolumns]
    grind
  have hothers : { snapshot with columns := before ++ after }.WellTyped :=
    { htyped with columns := fun other hother => htyped.columns other (hsub other hother) }
  have hkept : column ∈ before ++ after := by
    rw [hcolumns] at hcolumn
    have hother : column ≠ dropped := fun h => htable (congrArg Column.tableId h)
    grind
  have hcolumnTyped := htyped.columns column hcolumn
  obtain ⟨run⟩ := (resolve_ends htyped generator).of_eq_ok hresolve
  obtain ⟨otherRun⟩ := (resolve_ends hothers generator).of_eq_ok hwithout
  have haligned := aligned_of_column htyped hothers hids hnames run otherRun hcolumn hkept halike
  -- A column looks up its format and, if it holds JSON, its name.
  refine Column.exists_type hcolumnTyped ?_ (fun hjson => ?_) forInsert
  · exact haligned.findNamed?_format_eq htyped hothers ⟨htyped.catalog, hids, hnames⟩
      hcolumnTyped.format
  · have hdropped : dropped ∈ snapshot.columns := by rw [hcolumns]; simp
    rw [run.columns_eq, otherRun.columns_eq, hcolumns]
    refine find?_assignments_without hcolumnTyped.name (htyped.columns dropped hdropped).name
      (fun later hlater => (hothers.columns later (List.mem_append_right _ hlater)).name) ?_
    intro hsome hsame
    simp only [Option.isSome_iff_exists, Column.checkedType?_eq_some_iff] at hsome ⊢
    exact hhidden hjson hsame hsome

def allContacts : Column := { tableId := .int 1, name := .text "all", format := .text "_contact" }

def allLetters : Column := { tableId := .int 2, name := .text "all", format := .text "letter" }

def post : Snapshot :=
  { schemas := []
    tables := []
    views := []
    columns := [allContacts, allLetters]
    types := [letter, contactArray, contact, contactKind] }

/-- A column of contacts keeps its type without a column of letters to them. -/
theorem columnType_without_letters :
    ∃ resolution without type, ({} : Generator).resolve post = .ok resolution ∧
      ({} : Generator).resolve { post with columns := [allContacts] } = .ok without ∧
      allContacts.type resolution.registry true = .ok type ∧
      allContacts.type without.registry true = .ok type := by
  have hcontacts : allContacts.WellTyped := ⟨⟨1, rfl⟩, ⟨_, rfl⟩, ⟨_, rfl⟩, .inl rfl⟩
  have hletters : allLetters.WellTyped := ⟨⟨2, rfl⟩, ⟨_, rfl⟩, ⟨_, rfl⟩, .inl rfl⟩
  have htyped : post.WellTyped := by
    refine ⟨by simp [post], by simp [post], by simp [post], by simp [post, hcontacts, hletters], ?_⟩
    intro type htype
    refine wellTyped_contacts type ?_
    simp only [post, List.mem_cons, List.not_mem_nil, or_false] at htype ⊢
    tauto
  obtain ⟨resolution, hresolve, hrequired⟩ : ∃ resolution,
      ({} : Generator).resolve post = .ok resolution ∧
        resolution.requiredTypes = [contactKind, contact, letter, contactArray] := ⟨_, rfl, rfl⟩
  obtain ⟨without, hwithout, hotherRequired⟩ : ∃ without,
      ({} : Generator).resolve { post with columns := [allContacts] } = .ok without ∧
        without.requiredTypes = [contactKind, contact, contactArray] := ⟨_, rfl, rfl⟩
  have hids : (post.types.map (·.id)).Nodup := by
    simp [post, letter, contactArray, contact, contactKind]
  have hnames : (post.types.map (·.name)).Nodup := by
    simp [post, letter, contactArray, contact, contactKind]
  have hcolumns : post.columns = [allContacts] ++ allLetters :: [] := rfl
  have hjson : allContacts.holdsJson = false := rfl
  have halike : ∀ type needed, Required post.types [allContacts] type → type.isArray →
      needed ∈ post.types → RefersTo type needed →
      ([needed, type].Sublist resolution.requiredTypes ↔
        [needed, type].Sublist without.requiredTypes) := by
    intro type needed hset harray hneeded hrefers
    have htype : type = contactArray := by
      have hmem := hset.mem
      simp only [post, List.mem_cons, List.not_mem_nil, or_false] at hmem
      rcases hmem with rfl | rfl | rfl | rfl
      · exact absurd harray (by decide)
      · rfl
      · exact absurd harray (by decide)
      · exact absurd harray (by decide)
    subst htype
    have hcontact : needed = contact := by
      have hisArray := hrefers.resolve_left (by rintro ⟨_, hpart, _⟩; cases hpart)
      simp only [post, List.mem_cons, List.not_mem_nil, or_false] at hneeded
      rcases hneeded with rfl | rfl | rfl | rfl
      · exact absurd (Catalog.isArrayOf_text_iff.mp hisArray) (by decide)
      · exact absurd (Catalog.isArrayOf_text_iff.mp hisArray) (by decide)
      · rfl
      · exact absurd (Catalog.isArrayOf_text_iff.mp hisArray) (by decide)
    subst hcontact
    rw [hrequired, hotherRequired]
    exact iff_of_true (by simp) (by simp)
  obtain ⟨type, htype, hother⟩ := columnType_without {} htyped hids hnames hcolumns
    List.mem_cons_self (by simp [allContacts, allLetters]) hresolve hwithout
    (fun h => absurd h (by simp [hjson])) halike true
  exact ⟨resolution, without, type, hresolve, hwithout, htype, hother⟩

def allGrids : Column := { tableId := .int 1, name := .text "grid", format := .text "__point" }

def allShapes : Column := { tableId := .int 2, name := .text "outline", format := .text "shape" }

def plans : Snapshot :=
  { schemas := []
    tables := []
    views := []
    columns := [allGrids, allShapes]
    types := [Catalog.pointArray, Catalog.gridArray, Catalog.shape] }

/-- A column of shapes moves the array of arrays in front of its elements, which are then not
    found. -/
example :
    ∃ resolution without, ({} : Generator).resolve plans = .ok resolution ∧
      ({} : Generator).resolve { plans with columns := [allGrids] } = .ok without ∧
      allGrids.type resolution.registry false = .ok (.nullable .dynamic) ∧
      allGrids.type without.registry false = .ok (.nullable (.list .dynamic)) :=
  ⟨_, _, rfl, rfl, rfl, rfl⟩

def jsonbType : CatalogType := { id := .int 3802, name := .text "jsonb" }

def plainData : Column := { tableId := .int 1, name := .text "data", format := .text "jsonb" }

def checkedData : Column :=
  { tableId := .int 2
    name := .text "data"
    format := .text "jsonb"
    check := .text "jsonb_matches_schema('\x7b\"type\":\"string\"\x7d', data)" }

def documents : Snapshot :=
  { schemas := []
    tables := []
    views := []
    columns := [plainData, checkedData]
    types := [jsonbType] }

/-- The name of the type that a run gives a column of a snapshot. -/
def columnTypeName? (generator : Generator) (snapshot : Snapshot) (column : Column)
    (forInsert : Bool) : Option String :=
  match generator.resolve snapshot with
  | .error _ => none
  | .ok resolution =>
    match column.type resolution.registry forInsert with
    | .error _ => none
    | .ok type => some type.typeName

theorem columnTypeName?_eq_some {generator : Generator} {snapshot : Snapshot} {column : Column}
    {forInsert : Bool} {name : String}
    (h : columnTypeName? generator snapshot column forInsert = some name) :
    ∃ resolution type, generator.resolve snapshot = .ok resolution ∧
      column.type resolution.registry forInsert = .ok type ∧ type.typeName = name := by
  unfold columnTypeName? at h
  cases hresolve : generator.resolve snapshot with
  | error failure => simp [hresolve] at h
  | ok resolution =>
    cases htype : column.type resolution.registry forInsert with
    | error fault => simp [hresolve, htype] at h
    | ok type => exact ⟨resolution, type, rfl, htype, by simpa [hresolve, htype] using h⟩

/-- The schema of a column reaches a column of its name in another table. -/
theorem plainData_type_changes :
    documents.WellTyped ∧ (documents.types.map (·.id)).Nodup ∧
      (documents.types.map (·.name)).Nodup ∧ documents.columns = [plainData, checkedData] ∧
      plainData.tableId ≠ checkedData.tableId ∧
      ∃ resolution without type other,
        ({} : Generator).resolve documents = .ok resolution ∧
        ({} : Generator).resolve { documents with columns := [plainData] } = .ok without ∧
        plainData.type resolution.registry false = .ok type ∧
        plainData.type without.registry false = .ok other ∧ type ≠ other := by
  have hjsonb : jsonbType.WellTyped := by constructor <;> simp [jsonbType]
  have hplain : plainData.WellTyped := ⟨⟨1, rfl⟩, ⟨_, rfl⟩, ⟨_, rfl⟩, .inl rfl⟩
  have hchecked : checkedData.WellTyped := ⟨⟨2, rfl⟩, ⟨_, rfl⟩, ⟨_, rfl⟩, .inr ⟨_, rfl⟩⟩
  have htyped : documents.WellTyped := by
    constructor <;> simp [documents, hjsonb, hplain, hchecked]
  obtain ⟨resolution, type, hresolve, htype, hname⟩ := columnTypeName?_eq_some
    (by decide +kernel : columnTypeName? {} documents plainData false = some "String?")
  obtain ⟨without, other, hwithout, hother, hotherName⟩ := columnTypeName?_eq_some
    (by decide +kernel : columnTypeName? {} { documents with columns := [plainData] } plainData
      false = some "Map<String, dynamic>?")
  refine ⟨htyped, by simp [documents], by simp [documents], rfl, by simp [plainData, checkedData],
    resolution, without, type, other, hresolve, hwithout, htype, hother, ?_⟩
  rintro rfl
  exact absurd (hname.symm.trans hotherName) (by decide)

end Generator
end DartModels
