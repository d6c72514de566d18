import DartModels.Proofs.Dart.Enum

namespace DartModels.Dart

open Text (linesOf)

/-- Reads the line of a label: a value and its label. -/
def readLabel (line : List Char) : Option (String × String) := do
  let entry ← between? "      " "," line
  let (value, rest) ← readLiteral entry
  let label ← rest.dropPrefix? ": ".toList
  return (value, ← literalValue? label)

/-- Reads the line that begins the table of a locale. -/
def readLocale (line : List Char) : Option String := do
  literalValue? (← between? "    " ": \x7b" line)

mutual

/-- Reads the labels that are left of a locale, and the tables of the locales behind it. -/
def readLabels : List (List Char) → Option (List (String × String) × Translations)
  | [] => none
  | line :: rest =>
    if line = "    \x7d,".toList then do return ([], ← readTables rest)
    else do
      let label ← readLabel line
      let (labels, tables) ← readLabels rest
      return (label :: labels, tables)

/-- Reads the tables of locales up to the end of the constant. -/
def readTables : List (List Char) → Option Translations
  | [] => none
  | line :: rest =>
    if line = "  \x7d;".toList then some []
    else do
      let locale ← readLocale line
      let (labels, tables) ← readLabels rest
      return (locale, labels) :: tables

end

/-- The first line of the constant that holds the labels. -/
def labelsMarker : String := "  static const Map<String, Map<String, String>> translations = \x7b"

/-- Reads the constant that holds the labels of an enumeration, line by line. -/
def readTranslations (source : String) : Option Translations :=
  readTables (behind labelsMarker (linesOf source))

/-- The line of a label. -/
def labelText : String × String → String
  | (value, label) => "      " ++ literal value ++ ": " ++ literal label ++ ","

theorem readLabel_labelText (label : String × String) :
    readLabel (labelText label).toList = some label := by
  obtain ⟨value, label⟩ := label
  have hentry : between? "      " "," (labelText (value, label)).toList =
      some ((literal value).toList ++ (": ".toList ++ (literal label).toList)) := by
    have h := between?_append "      " ","
      ((literal value).toList ++ (": ".toList ++ (literal label).toList))
    simpa [labelText] using h
  have hrest : (": ".toList ++ (literal label).toList).dropPrefix? ": ".toList =
      some (literal label).toList :=
    List.dropPrefix?_eq_some_iff.mpr ⟨": ".toList, rfl, by simp⟩
  simp only [readLabel, hentry, Option.bind_eq_bind, Option.bind_some, readLiteral_literal, hrest,
    literalValue?_literal]
  rfl

theorem readLocale_literal (locale : String) :
    readLocale ("    " ++ literal locale ++ ": \x7b").toList = some locale := by
  have h := between?_append "    " ": \x7b" (literal locale).toList
  rw [readLocale, String.toList_append, String.toList_append, h, Option.bind_eq_bind,
    Option.bind_some, literalValue?_literal]

theorem labelText_ne (label : String × String) :
    (labelText label).toList ≠ "    \x7d,".toList := by
  obtain ⟨value, label⟩ := label
  simp only [labelText, String.toList_append, List.append_assoc]
  exact append_ne (by decide) _

/-- The lines of a locale are read up to its end. -/
theorem readLabels_labelTexts (labels : List (String × String)) (rest : List (List Char)) :
    readLabels (labels.map (fun label => (labelText label).toList) ++ "    \x7d,".toList :: rest) =
      (readTables rest).map (labels, ·) := by
  induction labels with
  | nil =>
    rw [List.map_nil, List.nil_append, readLabels, if_pos rfl]
    cases readTables rest <;> rfl
  | cons label labels ih =>
    rw [List.map_cons, List.cons_append, readLabels, if_neg (labelText_ne label), ih,
      readLabel_labelText]
    cases readTables rest <;> rfl

/-- The labels of one locale that belong to some values, in the order of the values. -/
def shownLabels (values : List String) (labels : List (String × String)) : List (String × String) :=
  values.filterMap fun value => (labels.lookup value).map fun label => (value, label)

theorem map_fst_shownLabels_sublist (values : List String) (labels : List (String × String)) :
    ((shownLabels values labels).map Prod.fst).Sublist values := by
  induction values with
  | nil => exact List.Sublist.slnil
  | cons value values ih =>
    rw [shownLabels, List.filterMap_cons]
    cases labels.lookup value with
    | none => exact ih.cons value
    | some label => exact ih.cons_cons value

/-- No label is lost where all of them belong to the values. -/
theorem shownLabels_perm {values : List String} (hvalues : values.Nodup)
    {labels : List (String × String)} (hlabels : (labels.map Prod.fst).Nodup)
    (hknown : ∀ label ∈ labels, label.1 ∈ values) : (shownLabels values labels).Perm labels := by
  have hshown : (shownLabels values labels).Nodup :=
    ((map_fst_shownLabels_sublist values labels).nodup hvalues).of_map _
  refine (List.perm_ext_iff_of_nodup hshown (hlabels.of_map _)).mpr fun ⟨value, label⟩ => ?_
  rw [← Json.lookup_eq_some_iff hlabels, shownLabels, List.mem_filterMap]
  constructor
  · rintro ⟨other, -, hother⟩
    obtain ⟨own, hown, heq⟩ := Option.map_eq_some_iff.mp hother
    cases heq
    exact hown
  · intro hlookup
    have hvalue := hknown _ ((Json.lookup_eq_some_iff hlabels).mp hlookup)
    exact ⟨value, hvalue, by rw [hlookup]; rfl⟩

namespace EnumClass

variable {enum : EnumClass}

theorem labelLines_eq (labels : List (String × String)) :
    enum.labelLines labels = (shownLabels enum.values labels).map labelText := by
  rw [labelLines, shownLabels, List.map_filterMap]
  refine congrArg (List.filterMap · enum.values) (funext fun value => ?_)
  cases labels.lookup value <;> rfl

/-- Labels are read back as far as they belong to values of the enumeration. -/
theorem readTables_localeLines (table : Translations) (rest : List (List Char)) :
    readTables ((table.flatMap fun (locale, labels) => enum.localeLines locale labels).map
        String.toList ++ "  \x7d;".toList :: rest) =
      some (table.map fun (locale, labels) => (locale, shownLabels enum.values labels)) := by
  induction table with
  | nil =>
    rw [List.flatMap_nil, List.map_nil, List.nil_append, readTables, if_pos rfl, List.map_nil]
  | cons entry table ih =>
    obtain ⟨locale, labels⟩ := entry
    have hopen : ("    " ++ literal locale ++ ": \x7b").toList ≠ "  \x7d;".toList := by
      rw [String.toList_append, String.toList_append, List.append_assoc]
      exact append_ne (by decide) _
    have hlabels := readLabels_labelTexts (shownLabels enum.values labels)
      ((table.flatMap fun (locale, labels) => enum.localeLines locale labels).map String.toList ++
        "  \x7d;".toList :: rest)
    simp only [List.flatMap_cons, localeLines, labelLines_eq, List.map_append, List.map_cons,
      List.append_assoc, List.cons_append, List.nil_append, List.map_map, Function.comp_def]
      at hlabels ih ⊢
    rw [readTables, if_neg hopen, readLocale_literal, hlabels, ih]
    rfl

theorem lineFeed_notMem_localeLines (locale : String) (labels : List (String × String)) :
    ∀ line ∈ enum.localeLines locale labels, '\n' ∉ line.toList := by
  have hliteral := lineFeed_notMem_literal
  simp only [localeLines, labelLines_eq, List.forall_mem_append, List.forall_mem_singleton,
    List.forall_mem_map, labelText]
  refine ⟨⟨by simp [hliteral], fun label _ => by simp [hliteral]⟩, by decide⟩

/-- The lines of the section that holds the labels. -/
theorem linesOf_translationSection {table : Translations} (htable : table ≠ [])
    (hlabels : enum.translations = some table) :
    enum.translationSection.flatMap linesOf =
      "".toList :: labelsMarker.toList ::
        ((table.flatMap fun (locale, labels) => enum.localeLines locale labels).map String.toList ++
          "  \x7d;".toList :: ["".toList,
            "  String? label(String locale) => translations[locale]?[toJson()];".toList]) := by
  have hsection : enum.translationSection = "" :: enum.translationLines table := by
    rw [translationSection, hlabels]
    cases table with
    | nil => exact absurd rfl htable
    | cons entry table => rfl
  have htables : (table.flatMap fun (locale, labels) => enum.localeLines locale labels).flatMap
      linesOf =
      (table.flatMap fun (locale, labels) => enum.localeLines locale labels).map String.toList := by
    rw [List.map_eq_flatMap]
    refine List.flatMap_congr fun line hline => Text.linesOf_eq_singleton ?_
    obtain ⟨⟨locale, labels⟩, -, hline⟩ := List.mem_flatMap.mp hline
    exact lineFeed_notMem_localeLines locale labels line hline
  rw [hsection, translationLines]
  simp only [List.flatMap_append, List.flatMap_cons, List.flatMap_nil, htables]
  simp (disch := decide) only [Text.linesOf_eq_singleton]
  rfl

/-- The labels that an enumeration is given are read back from it, as far as they belong to its
    values and in the order of these. -/
theorem readTranslations_source (hname : '\n' ∉ enum.className.toList) {table : Translations}
    (htable : table ≠ []) (hlabels : enum.translations = some table) :
    readTranslations enum.source =
      some (table.map fun (locale, labels) => (locale, shownLabels enum.values labels)) := by
  have hfront : ∀ line ∈ enum.bodyLines ++ ["".toList], line ≠ labelsMarker.toList := by
    intro line hline
    rcases List.mem_append.mp hline with hline | hline
    · rcases beginsNone_bodyLines enum line hline with rfl | rfl | hnone
      · decide
      · decide
      · exact hnone.ne (by decide) (by decide)
    · rw [List.mem_singleton.mp hline]
      decide
  have hlines := linesOf_source hname
  rw [linesOf_translationSection htable hlabels, List.cons_append, List.cons_append,
    List.append_assoc, List.cons_append, List.append_cons] at hlines
  rw [readTranslations, hlines, behind_append hfront, readTables_localeLines]

end EnumClass

end DartModels.Dart
