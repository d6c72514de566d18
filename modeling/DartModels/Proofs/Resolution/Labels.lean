import DartModels.Proofs.Dart.Labels
import DartModels.Proofs.Resolution.Translations

namespace DartModels

namespace Translations

variable {type : CatalogType} {locales : List String} {table : Translations}

/-- Labels come from a comment in JSON. -/
theorem exists_json_of_ofComment (h : (ofComment type locales).outcome = .ok (some table)) :
    ∃ comment value, Json.load comment = .ok value ∧
      ofJson type.enums locales value = .ok (.ok table) := by
  unfold ofComment at h
  split at h
  · next comment _ =>
    split at h
    · cases h
    · rcases hparse : Json.load comment with (error | _) | value
      · rw [hparse] at h
        cases h
      · rw [hparse] at h
        cases h
      · rw [hparse] at h
        dsimp only at h
        rw [Traced.outcome_bind, bind_eq_ok_iff] at h
        obtain ⟨result, hjson, h⟩ := h
        cases result with
        | error faults => cases h
        | ok labels =>
          cases h
          exact ⟨comment, value, hparse, hjson⟩
  · split at h <;> cases h

/-- No value is labelled twice in one locale. -/
theorem nodup_labels {comment : String} {members : Json.Members}
    (hparse : Json.load comment = .ok (.object members))
    (hlookup : members.lookup "translations" = some (toJson table)) :
    ∀ entry ∈ table, (entry.2.map Prod.fst).Nodup := by
  intro entry hentry
  cases Json.distinct_of_parseWithin hparse with
  | object hnames hmembers =>
    cases hmembers _ ((Json.lookup_eq_some_iff hnames).mp hlookup) with
    | object _ htables =>
      cases htables _ (List.mem_map_of_mem hentry) with
      | object hvalues _ => simpa [Json.names, Function.comp_def] using hvalues

/-- Accepted labels label each value once, and only values that there are. -/
theorem labels_of_ofComment {values : List String} (henums : type.enums = values.map .text)
    (h : (ofComment type locales).outcome = .ok (some table)) :
    ∀ entry ∈ table, (entry.2.map Prod.fst).Nodup ∧ ∀ label ∈ entry.2, label.1 ∈ values := by
  have htexts : ∀ value ∈ type.enums, ∃ text, value = .text text := by
    rw [henums]
    exact List.forall_mem_map.mpr fun value _ => ⟨value, rfl⟩
  obtain ⟨comment, value, hparse, hjson⟩ := exists_json_of_ofComment h
  obtain ⟨given, hgivenJson, hgiven⟩ | ⟨⟨faults, hfaults⟩, -⟩ := ofJson_ends htexts locales hparse
  · cases hjson.symm.trans hgivenJson
    obtain ⟨members, hmembers, hlookup⟩ := hgiven.member
    intro entry hentry
    refine ⟨nodup_labels hmembers hlookup entry hentry, fun label hlabel => ?_⟩
    simpa [henums] using hgiven.covers.values entry hentry label hlabel
  · cases hjson.symm.trans hfaults

end Translations

namespace Mapping

variable {type : CatalogType} {name : String} {locales : List String} {registry : Registry}

variable (hname : type.name = .text name) (hplain : Catalog.isArrayName name = false)
include hname hplain

/-- A type that is no array is mapped by the rules for its own name. -/
theorem target_of_plain : target locales registry type =
    match DartType.builtin? name with
    | some builtin => pure builtin
    | none =>
      if type.enums ≠ [] then enumeration type name locales
      else if type.attributes ≠ [] then composite type name registry
      else do
        .tell (noMatchingType type)
        return .dynamic := by
  have hbase : Catalog.baseName name = name := by
    have htext := type.text_base_eq hname (by rw [CatalogType.isArray_eq hname, hplain])
    rw [hname, CatalogType.base_eq hname] at htext
    exact Json.text.inj htext
  unfold target
  simp only [hname, Catalog.markedName, Traced.lift_ok_bind, hplain, hbase]
  cases DartType.builtin? name with
  | some builtin => rfl
  | none => cases type.enums <;> cases type.attributes <;> simp [wrapped]

/-- An enum has the labels of its comment. -/
theorem labels_of_target {base : Json} {values : List Json}
    {labels : Option DartModels.Translations}
    (h : (target locales registry type).outcome = .ok (.enum base values labels)) :
    base = .text name ∧ values = type.enums ∧
      (Translations.ofComment type locales).outcome = .ok labels := by
  rw [target_of_plain hname hplain] at h
  cases hbuiltin : DartType.builtin? name with
  | some builtin =>
    rw [hbuiltin] at h
    cases h
    unfold DartType.builtin? at hbuiltin
    split at hbuiltin <;> cases hbuiltin
  | none =>
    rw [hbuiltin] at h
    dsimp only at h
    split at h
    · rw [enumeration, Traced.outcome_bind, bind_eq_ok_iff] at h
      obtain ⟨own, hown, h⟩ := h
      cases h
      exact ⟨rfl, rfl, hown⟩
    · split at h
      · rw [composite, Traced.outcome_bind, bind_eq_ok_iff] at h
        obtain ⟨fields, -, h⟩ := h
        cases h
      · cases h

end Mapping

open Dart (declaration readTranslations)

/-- The labels that are accepted for an enum stand in its declaration, where they are read back line
    by line: the same locales in the same order, and for each of them the same labels, once each
    and in the order of the values. -/
theorem Translations.readTranslations_declaration {type : CatalogType} {name : String}
    {values : List String} (hname : type.name = .text name)
    (hplain : Catalog.isArrayName name = false) (henums : type.enums = values.map .text)
    (hvalues : values.Nodup) {locales : List String} {table : Translations}
    (haccepted : (ofComment type locales).outcome = .ok (some table)) (htable : table ≠ [])
    (registry : Registry) :
    (DartType.builtin? name = none → values ≠ [] →
      (Mapping.target locales registry type).outcome =
        .ok (.enum (.text name) type.enums (some table))) ∧
    ∀ base shown labels,
      (Mapping.target locales registry type).outcome = .ok (.enum base shown labels) →
      ∃ source read, declaration (.enum base shown labels) = .ok source ∧
        readTranslations source = some read ∧
        List.Forall₂ (fun given found => found.1 = given.1 ∧ found.2.Perm given.2 ∧
          (found.2.map Prod.fst).Sublist values) table read := by
  constructor
  · intro hbuiltin hsome
    have henum : type.enums ≠ [] := by simpa [henums] using hsome
    rw [Mapping.target_of_plain hname hplain, hbuiltin]
    dsimp only
    rw [if_pos henum, Mapping.enumeration, Traced.outcome_bind, haccepted]
    rfl
  · intro base shown labels htarget
    obtain ⟨rfl, rfl, hlabels⟩ := Mapping.labels_of_target hname hplain htarget
    cases hlabels.symm.trans haccepted
    let enum := Dart.EnumClass.mk (Dart.className name) values (some table)
    have hread : readTranslations enum.source = some (table.map fun entry =>
        (entry.1, Dart.shownLabels values entry.2)) :=
      enum.readTranslations_source (Dart.lineFeed_notMem_className name) htable rfl
    rw [henums]
    refine ⟨enum.source, _, Dart.declaration_enum name values (some table), hread, ?_⟩
    rw [List.forall₂_map_right_iff, List.forall₂_same]
    intro entry hentry
    obtain ⟨hdistinct, hknown⟩ := labels_of_ofComment henums haccepted entry hentry
    exact ⟨rfl, Dart.shownLabels_perm hvalues hdistinct hknown,
      Dart.map_fst_shownLabels_sublist values entry.2⟩

namespace Translations

/-- Labels of a mood, one of them with all that is escaped in a literal. -/
def moodLabels : Translations :=
  [("de", [("bad", "Schlecht"), ("ok", "Geht's?\n$ \\")]), ("en", [])]

def moodComment : String :=
  Json.print .oneLine (.object [("translations", toJson moodLabels)])

def mood : CatalogType :=
  { id := .int 7, name := .text "mood", enums := ["ok", "bad"].map .text,
    comment := .text moodComment }

theorem ofComment_mood : (ofComment mood ["en", "de"]).outcome = .ok (some moodLabels) := by
  have hexact : Json.Exact Json.digitLimit (.object [("translations", toJson moodLabels)]) := by
    refine .object (by simp [Json.names]) ?_
    simpa using exact_toJson (by decide) (by decide : ∀ entry ∈ moodLabels, _)
  have hjson : ofJson mood.enums ["en", "de"] (.object [("translations", toJson moodLabels)]) =
      .ok (.ok moodLabels) := by
    rfl
  have hcomment : mood.comment = .text moodComment := rfl
  rw [ofComment_json hcomment (Json.load_print hexact) hjson]

/-- The labels of a mood are found in its declaration. -/
theorem readTranslations_mood :
    mood.name = .text "mood" ∧ Catalog.isArrayName "mood" = false ∧ ["ok", "bad"].Nodup ∧
      (ofComment mood ["en", "de"]).outcome = .ok (some moodLabels) ∧ moodLabels ≠ [] ∧
      ∃ target source read, (Mapping.target ["en", "de"] {} mood).outcome = .ok target ∧
        declaration target = .ok source ∧ readTranslations source = some read ∧
        List.Forall₂ (fun given found => found.1 = given.1 ∧ found.2.Perm given.2 ∧
          (found.2.map Prod.fst).Sublist ["ok", "bad"]) moodLabels read := by
  have hname : mood.name = .text "mood" := rfl
  have hvalues : ["ok", "bad"].Nodup := by decide
  have htable : moodLabels ≠ [] := by decide
  obtain ⟨hmapped, hread⟩ :=
    readTranslations_declaration hname (by decide) rfl hvalues ofComment_mood htable {}
  have htarget := hmapped (by decide) (by decide)
  obtain ⟨source, read, hsource, hfound, hlabels⟩ := hread _ _ _ htarget
  exact ⟨hname, by decide, hvalues, ofComment_mood, htable, _, source, read, htarget, hsource,
    hfound, hlabels⟩

end Translations
end DartModels
