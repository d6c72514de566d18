import DartModels.Proofs.Json.Distinct
import DartModels.Proofs.Json.RoundTrip
import DartModels.Proofs.Resolution.Mapping

namespace DartModels.Translations

/-- The labels of one locale, as a comment has them. -/
def labelsJson (labels : List (String × String)) : Json :=
  .object (labels.map fun (value, label) => (value, .text label))

/-- The labels of all locales, as a comment has them. -/
def toJson (table : Translations) : Json :=
  .object (table.map fun (locale, labels) => (locale, labelsJson labels))

/-- The labels in the table of one locale. -/
def labelsOf (table : Json) : List (String × String) :=
  (membersOf table).map fun (value, label) => (value, label.spelling)

theorem labelsOf_labelsJson (labels : List (String × String)) :
    labelsOf (labelsJson labels) = labels := by
  simp [labelsOf, labelsJson, membersOf, Json.spelling, Function.comp_def]

/-- The table of a locale is in order if and only if it is one of texts. -/
theorem tableFaults_eq_nil_iff {table : Json} :
    tableFaults table = [] ↔ labelsJson (labelsOf table) = table := by
  cases table with
  | object members =>
    have htexts : (members.map fun member => (member.1, Json.text member.2.spelling)) = members ↔
        ∀ member ∈ members, member.2.isText = true := by
      conv_lhs => rw [← List.map_id members, List.map_map, List.map_inj_left]
      refine forall₂_congr fun ⟨name, value⟩ _ => ?_
      cases value <;> simp [Json.isText, Json.spelling]
    simpa [tableFaults, labelsJson, labelsOf, membersOf, Function.comp_def] using htexts.symm
  | _ => simp [tableFaults, labelsJson]

theorem ofShape_object {members : Json.Members} {locales : Json.Members}
    (h : members.lookup "translations" = some (.object locales)) :
    ofShape (.object members) = locales.map fun member => (member.1, labelsOf member.2) := by
  simp only [ofShape, membersOf, h]
  rfl

theorem ofShape_eq {members : Json.Members} {table : Translations}
    (h : members.lookup "translations" = some (toJson table)) :
    ofShape (.object members) = table := by
  rw [ofShape_object h, List.map_map]
  refine (List.map_congr_left fun entry _ => ?_).trans (List.map_id table)
  exact Prod.ext rfl (labelsOf_labelsJson entry.2)

/-- A comment is in shape if and only if it is an object in which a member holds a table of labels
    for each locale. -/
theorem shapeFaults_eq_nil_iff {comment : Json} :
    shapeFaults comment = [] ↔ ∃ members table, comment = .object members ∧
      members.lookup "translations" = some (toJson table) := by
  constructor
  · intro h
    unfold shapeFaults at h
    split at h
    · next members =>
      split at h
      · cases h
      · next locales hlookup =>
        refine ⟨members, locales.map fun member => (member.1, labelsOf member.2), rfl, ?_⟩
        have hlocales : locales.map (fun member => (member.1, labelsJson (labelsOf member.2))) =
            locales := by
          refine (List.map_congr_left fun member hmember => ?_).trans (List.map_id locales)
          have hfaults := List.flatMap_eq_nil_iff.mp h member hmember
          exact Prod.ext rfl (tableFaults_eq_nil_iff.mp hfaults)
        rw [hlookup, toJson, List.map_map]
        exact congrArg (some ∘ Json.object) hlocales.symm
      · cases h
    · cases h
  · rintro ⟨members, table, rfl, hlookup⟩
    simp only [shapeFaults, hlookup, toJson]
    refine List.flatMap_eq_nil_iff.mpr fun member hmember => ?_
    obtain ⟨entry, -, rfl⟩ := List.mem_map.mp hmember
    exact tableFaults_eq_nil_iff.mpr (congrArg labelsJson (labelsOf_labelsJson _))

/-- Labels cover the supported locales and name only values that there are. -/
structure Covers (values : List Json) (locales : List String) (table : Translations) : Prop where
  locales : ∀ locale, locale ∈ table.map Prod.fst ↔ locale ∈ locales
  values : ∀ labels ∈ table, ∀ label ∈ labels.2, .text label.1 ∈ values

/-- A locale has no fault if and only if it is there and names only values that there are. -/
theorem localeFault?_eq_none_iff {values : List Json.Key} {table : Translations} {locale : String} :
    localeFault? values table locale = none ↔
      ∃ labels, table.lookup locale = some labels ∧
        ∀ label ∈ labels, .text label.1 ∈ values := by
  unfold localeFault?
  cases table.lookup locale with
  | none => simp
  | some labels =>
    have hknown : (labels.map Prod.fst).filter (fun value => !values.contains (.text value)) = [] ↔
        ∀ label ∈ labels, .text label.1 ∈ values := by
      simp
    dsimp only
    split
    · next h => simpa using hknown.mp h
    · next h => simpa using hknown.not.mp h

/-- Where no locale is there twice, labels have no fault if and only if they cover the supported
    locales with values that there are. -/
theorem contentFault?_eq_none_iff {values : List Json} {keys : List Json.Key}
    (hkeys : ∀ value, .text value ∈ keys ↔ .text value ∈ values)
    (locales : List String) {table : Translations} (hdistinct : (table.map Prod.fst).Nodup) :
    contentFault? keys locales table = none ↔ Covers values locales table := by
  have hsupported : (table.map Prod.fst).filter (fun locale => !locales.contains locale) = [] ↔
      ∀ locale ∈ table.map Prod.fst, locale ∈ locales := by
    simp
  have hlocales : locales.findSome? (localeFault? keys table) = none ↔ ∀ locale ∈ locales,
      ∃ labels, (locale, labels) ∈ table ∧ ∀ label ∈ labels, .text label.1 ∈ values := by
    simp only [List.findSome?_eq_none_iff, localeFault?_eq_none_iff, hkeys,
      Json.lookup_eq_some_iff hdistinct]
  have hcontent : contentFault? keys locales table = none ↔
      (∀ locale ∈ table.map Prod.fst, locale ∈ locales) ∧
        locales.findSome? (localeFault? keys table) = none := by
    rw [← hsupported]
    unfold contentFault?
    split
    · next h => exact (and_iff_right h).symm
    · next h => exact iff_of_false (Option.some_ne_none _) fun hboth => h hboth.1
  rw [hcontent, hlocales]
  constructor
  · rintro ⟨hsub, hall⟩
    refine ⟨fun locale => ⟨hsub locale, fun hlocale => ?_⟩, fun entry hentry label hlabel => ?_⟩
    · obtain ⟨labels, hmem, -⟩ := hall locale hlocale
      exact List.mem_map_of_mem hmem
    · obtain ⟨labels, hmem, hknown⟩ := hall entry.1 (hsub _ (List.mem_map_of_mem hentry))
      have hsame : entry.2 = labels :=
        congrArg Prod.snd (List.inj_on_of_nodup_map hdistinct hentry hmem rfl)
      exact hknown label (hsame ▸ hlabel)
  · intro h
    refine ⟨fun locale => (h.locales locale).mp, fun locale hlocale => ?_⟩
    obtain ⟨⟨_, labels⟩, hmem, rfl⟩ := List.mem_map.mp ((h.locales locale).mpr hlocale)
    exact ⟨labels, hmem, h.values _ hmem⟩

/-- Labels that name no locale and no value twice can be read back. -/
theorem exact_toJson {table : Translations} (hlocales : (table.map Prod.fst).Nodup)
    (hvalues : ∀ entry ∈ table, (entry.2.map Prod.fst).Nodup) {limit : Option Nat} :
    Json.Exact limit (toJson table) := by
  refine .object (by simpa [Json.names, Function.comp_def] using hlocales) fun member hmember => ?_
  obtain ⟨entry, hentry, rfl⟩ := List.mem_map.mp hmember
  refine .object (by simpa [Json.names, Function.comp_def] using hvalues entry hentry) ?_
  intro label hlabel
  obtain ⟨⟨value, text⟩, -, rfl⟩ := List.mem_map.mp hlabel
  exact .text text

variable {type : CatalogType}

section

variable (hvalues : ∀ value ∈ type.enums, ∃ text, value = .text text)
include hvalues

/-- The keys of texts tell the texts apart. -/
theorem exists_keys :
    ∃ keys, (type.enums.mapM fun value => do
        return (← Catalog.label value).key : Except Fault (List Json.Key)) = .ok keys ∧
      ∀ value, .text value ∈ keys ↔ .text value ∈ type.enums := by
  have hstep : ∀ value ∈ type.enums, (do return (← Catalog.label value).key :
      Except Fault Json.Key) = .ok (Catalog.labelOf value).key := by
    intro value hvalue
    obtain ⟨text, rfl⟩ := hvalues value hvalue
    rfl
  refine ⟨type.enums.map fun value => (Catalog.labelOf value).key, ?_, fun value => ?_⟩
  · refine mapM_eq_ok_iff.mpr (List.forall₂_map_right_iff.mpr ?_)
    exact List.forall₂_same.mpr hstep
  · rw [List.mem_map]
    constructor
    · rintro ⟨other, hother, hkey⟩
      obtain ⟨text, rfl⟩ := hvalues other hother
      obtain rfl : text = value := by simpa [Catalog.labelOf, Json.key?] using hkey
      exact hother
    · exact fun hvalue => ⟨_, hvalue, rfl⟩

/-- The labels of a comment in shape are taken unless they have a fault. -/
theorem exists_ofJson_eq (locales : List String) {members : Json.Members} {table : Translations}
    (hlookup : members.lookup "translations" = some (toJson table)) :
    ∃ keys, (∀ value, .text value ∈ keys ↔ .text value ∈ type.enums) ∧
      ofJson type.enums locales (.object members) =
        match contentFault? keys locales table with
        | some fault => .ok (.error [fault])
        | none => .ok (.ok table) := by
  obtain ⟨keys, hkeysOk, hkeys⟩ := exists_keys hvalues
  refine ⟨keys, hkeys, ?_⟩
  rw [ofJson, shapeFaults_eq_nil_iff.mpr ⟨members, table, rfl, hlookup⟩]
  simp only [hkeysOk, ok_bind, ofShape_eq hlookup]
  rfl

end

section

variable [Text.HalfBlock]

/-- What a comment gives labels by: the JSON of an object in which a member holds the labels, for
    all supported locales and for no others, and of values that there are. -/
structure GivenBy (comment : String) (values : List Json) (locales : List String)
    (table : Translations) : Prop where
  member : ∃ members, Json.load comment = .ok (.object members) ∧
    members.lookup "translations" = some (toJson table)
  covers : Covers values locales table

/-- No locale is named twice in what was read. -/
theorem nodup_locales {comment : String} {members : Json.Members} {table : Translations}
    (hparse : Json.load comment = .ok (.object members))
    (hlookup : members.lookup "translations" = some (toJson table)) :
    (table.map Prod.fst).Nodup := by
  cases Json.distinct_of_parseWithin hparse with
  | object hnames hmembers =>
    have htable := hmembers _ ((Json.lookup_eq_some_iff hnames).mp hlookup)
    cases htable with
    | object hlocales _ => simpa [Json.names, Function.comp_def] using hlocales

variable {comment : String} {locales : List String} {table : Translations}

/-- A comment that is left empty gives no labels, and nothing is noted. -/
theorem ofComment_blank (hcomment : type.comment = .null ∨
    ∃ comment, type.comment = .text comment ∧ Text.isBlankText comment = true)
    (locales : List String) : ofComment type locales = ⟨[], .ok none⟩ := by
  unfold ofComment
  rcases hcomment with hcomment | ⟨comment, hcomment, hblank⟩
  · rw [hcomment]
    rfl
  · rw [hcomment]
    dsimp only
    rw [if_pos hblank]
    rfl

theorem ofComment_notJson (hcomment : type.comment = .text comment)
    (hblank : Text.isBlankText comment = false) {error : Json.SyntaxError}
    (hparse : Json.load comment = .error (.malformed error)) (locales : List String) :
    ofComment type locales = ⟨[commentInvalid type error.fault], .ok none⟩ := by
  unfold ofComment
  rw [hcomment]
  dsimp only
  rw [if_neg (by simp [hblank]), hparse]
  rfl

/-- A number of too many digits stops the run, and nothing is noted. -/
theorem ofComment_tooManyDigits (hcomment : type.comment = .text comment)
    (hparse : Json.load comment = .error .tooManyDigits) (locales : List String) :
    ofComment type locales = ⟨[], .error .tooManyDigits⟩ := by
  unfold ofComment
  rw [hcomment]
  dsimp only
  rw [if_neg (by simp [Json.isBlankText_of_load, hparse]), hparse]
  rfl

theorem ofComment_json (hcomment : type.comment = .text comment) {value : Json}
    (hparse : Json.load comment = .ok value) {result : Except (List LabelFault) Translations}
    (hresult : ofJson type.enums locales value = .ok result) :
    ofComment type locales =
      match result with
      | .ok table => ⟨[], .ok (some table)⟩
      | .error faults => ⟨[labelsInvalid type faults], .ok none⟩ := by
  unfold ofComment
  rw [hcomment]
  dsimp only
  rw [if_neg (by simp [Json.isBlankText_of_load, hparse]), hparse]
  simp only [hresult, Traced.lift_ok_bind]
  cases result <;> rfl

section

variable (hvalues : ∀ value ∈ type.enums, ∃ text, value = .text text)
include hvalues

/-- What JSON is read for labels ends with a table if and only if the JSON gives it, and with
    faults otherwise. -/
theorem ofJson_ends (locales : List String) {value : Json}
    (hparse : Json.load comment = .ok value) :
    (∃ table, ofJson type.enums locales value = .ok (.ok table) ∧
      GivenBy comment type.enums locales table) ∨
    (∃ faults, ofJson type.enums locales value = .ok (.error faults)) ∧
      ∀ table, ¬ GivenBy comment type.enums locales table := by
  have hgiven {table : Translations} (h : GivenBy comment type.enums locales table) :
      ∃ members, value = .object members ∧
        members.lookup "translations" = some (toJson table) := by
    obtain ⟨members, hmembers, hlookup⟩ := h.member
    exact ⟨members, Except.ok.inj (hparse.symm.trans hmembers), hlookup⟩
  cases hshape : shapeFaults value with
  | cons fault faults =>
    refine .inr ⟨⟨fault :: faults, by rw [ofJson, hshape]; rfl⟩, fun table h => ?_⟩
    obtain ⟨members, rfl, hlookup⟩ := hgiven h
    rw [shapeFaults_eq_nil_iff.mpr ⟨members, table, rfl, hlookup⟩] at hshape
    cases hshape
  | nil =>
    obtain ⟨members, table, rfl, hlookup⟩ := shapeFaults_eq_nil_iff.mp hshape
    obtain ⟨keys, hkeys, hofJson⟩ := exists_ofJson_eq hvalues locales hlookup
    have hcontent := contentFault?_eq_none_iff hkeys locales (nodup_locales hparse hlookup)
    rw [hofJson]
    cases hfault : contentFault? keys locales table with
    | none => exact .inl ⟨table, rfl, ⟨members, hparse, hlookup⟩, hcontent.mp hfault⟩
    | some fault =>
      refine .inr ⟨⟨[fault], rfl⟩, fun other h => ?_⟩
      obtain ⟨others, heq, hother⟩ := hgiven h
      cases heq
      obtain rfl : other = table := (ofShape_eq hother).symm.trans (ofShape_eq hlookup)
      rw [hcontent.mpr h.covers] at hfault
      cases hfault

/-- The comment of an enum of texts gives labels if and only if it is the JSON of an object with
    valid ones, which are then taken as they are. Nothing is noted for them, nor for a comment that
    is left empty. One note is made of a comment that is no JSON, and one of another severity of
    every other comment, except for one with a number of too many digits: that stops the run. -/
theorem ofComment_outcome
    (hcomment : type.comment = .null ∨ ∃ comment, type.comment = .text comment)
    (locales : List String) :
    (∀ notes table, ofComment type locales = ⟨notes, .ok (some table)⟩ ↔
      notes = [] ∧ ∃ comment, type.comment = .text comment ∧
        GivenBy comment type.enums locales table) ∧
    ((type.comment = .null ∨
        ∃ comment, type.comment = .text comment ∧ Text.isBlankText comment = true) →
      ofComment type locales = ⟨[], .ok none⟩) ∧
    (∀ comment error, type.comment = .text comment → Text.isBlankText comment = false →
      Json.load comment = .error (.malformed error) →
        ∃ note, ofComment type locales = ⟨[note], .ok none⟩ ∧
          note.code = "enum_comment_invalid" ∧ note.level = .info ∧ note.subject = type.name) ∧
    (∀ comment value, type.comment = .text comment → Json.load comment = .ok value →
      (∀ table, ¬ GivenBy comment type.enums locales table) →
        ∃ note, ofComment type locales = ⟨[note], .ok none⟩ ∧
          note.code = "enum_translations_invalid" ∧ note.level = .warning ∧
          note.subject = type.name) ∧
    ∀ comment, type.comment = .text comment → Json.load comment = .error .tooManyDigits →
      ofComment type locales = ⟨[], .error .tooManyDigits⟩ := by
  refine ⟨fun notes table => ⟨fun h => ?_, ?_⟩, fun hblank => ofComment_blank hblank locales,
    ?_, ?_, fun comment htext hlong => ofComment_tooManyDigits htext hlong locales⟩
  · obtain hnull | ⟨comment, htext⟩ := hcomment
    · rw [ofComment_blank (.inl hnull)] at h
      cases h
    rcases hparse : Json.load comment with (error | _) | value
    · cases hblank : Text.isBlankText comment with
      | true =>
        rw [ofComment_blank (.inr ⟨comment, htext, hblank⟩)] at h
        cases h
      | false =>
        rw [ofComment_notJson htext hblank hparse] at h
        cases h
    · rw [ofComment_tooManyDigits htext hparse] at h
      cases h
    · obtain ⟨given, hofJson, hgiven⟩ | ⟨⟨faults, hofJson⟩, -⟩ :=
        ofJson_ends hvalues locales hparse
      · rw [ofComment_json htext hparse hofJson] at h
        cases h
        exact ⟨rfl, comment, htext, hgiven⟩
      · rw [ofComment_json htext hparse hofJson] at h
        cases h
  · rintro ⟨rfl, comment, htext, hgiven⟩
    obtain ⟨members, hparse, hlookup⟩ := hgiven.member
    obtain ⟨given, hofJson, hother⟩ | ⟨-, hnone⟩ :=
      ofJson_ends hvalues locales hparse
    · obtain ⟨others, heq, hothers⟩ := hother.member
      cases hparse.symm.trans heq
      obtain rfl : given = table := (ofShape_eq hothers).symm.trans (ofShape_eq hlookup)
      rw [ofComment_json htext hparse hofJson]
    · exact absurd hgiven (hnone table)
  · intro comment error htext hblank hparse
    exact ⟨_, ofComment_notJson htext hblank hparse locales, rfl, rfl, rfl⟩
  · intro comment value htext hparse hnone
    obtain ⟨given, -, hgiven⟩ | ⟨⟨faults, hofJson⟩, -⟩ :=
      ofJson_ends hvalues locales hparse
    · exact absurd hgiven (hnone given)
    · exact ⟨_, ofComment_json htext hparse hofJson, rfl, rfl, rfl⟩

end

end

def stateLabels : Translations := [("en", [("open", "Open")]), ("de", [])]

def stateComment : String :=
  Json.print .oneLine (.object [("note", .null), ("translations", toJson stateLabels)])

/-- An enum whose comment gives labels for some of its values. -/
def state : CatalogType :=
  { id := .int 1
    name := .text "state"
    enums := [.text "open", .text "done"]
    comment := .text stateComment }

/-- The same enum with a number of one digit too many for a comment. -/
def numberedState : CatalogType :=
  { state with comment := .text (String.ofList (Json.writeInt (Json.longerThan 4300))) }

/-- Labels are taken whatever the order of the locales, and not where one is missing. A long
    number stops the run. -/
theorem ofComment_state :
    (∀ value ∈ state.enums, ∃ text, value = .text text) ∧
      (∃ comment, state.comment = .text comment) ∧
      ofComment state ["de", "en", "de"] = ⟨[], .ok (some stateLabels)⟩ ∧
      (∃ note, ofComment state ["de"] = ⟨[note], .ok none⟩ ∧
        note.code = "enum_translations_invalid") ∧
      ofComment numberedState ["de"] = ⟨[], .error .tooManyDigits⟩ := by
  have hvalues : ∀ value ∈ state.enums, ∃ text, value = .text text := by simp [state]
  have hexact : Json.Exact Json.digitLimit
      (.object [("note", .null), ("translations", toJson stateLabels)]) := by
    refine .object (by simp [Json.names]) ?_
    simpa [Json.Exact.null] using exact_toJson (by decide) (by decide : ∀ entry ∈ stateLabels, _)
  have hparse := Json.load_print hexact
  have hgiven : GivenBy stateComment state.enums ["de", "en", "de"] stateLabels := by
    refine ⟨⟨_, hparse, rfl⟩, ⟨fun locale => ?_, by simp [stateLabels, state]⟩⟩
    simp [stateLabels, or_comm]
  refine ⟨hvalues, ⟨_, rfl⟩, ?_, ?_, ?_⟩
  · exact ((ofComment_outcome hvalues (.inr ⟨_, rfl⟩) _).1 [] stateLabels).mpr
      ⟨rfl, stateComment, rfl, hgiven⟩
  · obtain ⟨note, hnote, hcode, -⟩ := (ofComment_outcome hvalues (.inr ⟨_, rfl⟩) ["de"]).2.2.2.1
      stateComment _ rfl hparse fun table h => by
        obtain ⟨members, hmembers, hlookup⟩ := h.member
        cases hparse.symm.trans hmembers
        have htable : table = stateLabels := (ofShape_eq hlookup).symm
        have hen := (h.covers.locales "en").mp (by simp [htable, stateLabels])
        simp at hen
    exact ⟨note, hnote, hcode⟩
  · have hlong : Json.hasFewDigits Json.digitLimit (.int (Json.longerThan 4300)) = false :=
      Json.hasFewDigits_longerThan rfl (by decide)
    have hnumbered : ∀ value ∈ numberedState.enums, ∃ text, value = .text text := hvalues
    exact (ofComment_outcome hnumbered (.inr ⟨_, rfl⟩) ["de"]).2.2.2.2 _ rfl
      (Json.load_writeInt hlong)

end DartModels.Translations
