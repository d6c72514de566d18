import DartModels.Proofs.Dart.Labels
import Mathlib.Algebra.GroupWithZero.Nat

namespace DartModels.Dart

open Text (linesOf)

/-- Whether a character ends a line of source code. -/
def endsLine (c : Char) : Bool :=
  c == '\n' || c == '\r'

/-- The lines of source code, which a carriage return ends like a line feed. -/
def codeLinesOf (source : String) : List (List Char) :=
  source.toList.splitOnP endsLine

/-- The number of carriage returns in a text. -/
def returns (text : String) : Nat :=
  text.toList.count '\r'

theorem length_splitOnP (ends : Char → Bool) (cs : List Char) :
    (cs.splitOnP ends).length = cs.countP ends + 1 := by
  induction cs with
  | nil => rfl
  | cons c cs ih =>
    rw [List.splitOnP_cons_eq_if_modifyHead, List.countP_cons]
    cases ends c <;> simp [ih]

/-- Each carriage return ends one line more than the line feeds do. -/
theorem length_codeLinesOf (text : String) :
    (codeLinesOf text).length = (linesOf text).length + returns text := by
  have hcount (cs : List Char) : cs.countP endsLine = cs.count '\n' + cs.count '\r' := by
    induction cs with
    | nil => rfl
    | cons c cs ih =>
      by_cases hfeed : c = '\n'
      · subst hfeed
        simp [endsLine, ih]
        omega
      · by_cases hreturn : c = '\r'
        · subst hreturn
          simp [endsLine, ih]
          omega
        · simp [endsLine, ih, hfeed, hreturn]
  rw [codeLinesOf, linesOf, List.splitOn, length_splitOnP, length_splitOnP, hcount, returns,
    List.count]
  omega

theorem codeLinesOf_eq_linesOf_iff {text : String} :
    codeLinesOf text = linesOf text ↔ '\r' ∉ text.toList := by
  constructor
  · intro h
    have hlength := length_codeLinesOf text
    rw [h] at hlength
    exact List.count_eq_zero.mp (by simpa [returns] using hlength)
  · intro h
    have hsplit (cs : List Char) (hcs : '\r' ∉ cs) : cs.splitOnP endsLine = cs.splitOn '\n' := by
      induction cs with
      | nil => rfl
      | cons c cs ih =>
        rw [List.mem_cons, not_or] at hcs
        have hends : endsLine c = (c == '\n') := by simp [endsLine, Ne.symm hcs.1]
        rw [List.splitOn, List.splitOnP_cons_eq_if_modifyHead, List.splitOnP_cons_eq_if_modifyHead,
          hends, ih hcs.2]
        rfl
    exact hsplit _ h

@[simp] theorem returns_append (front back : String) :
    returns (front ++ back) = returns front + returns back := by
  simp [returns]

theorem returns_eq_zero {text : String} (h : '\r' ∉ text.toList) : returns text = 0 :=
  List.count_eq_zero.mpr h

theorem returns_propertyName (name : String) : returns (propertyName name) = 0 :=
  returns_eq_zero fun hc => absurd (isIdentifierCharacter_of_mem_propertyName _ hc) (by decide)

/-- Carriage returns are written into literals as they are. -/
theorem returns_literal (value : String) : returns (literal value) = returns value := by
  have hescape (cs : List Char) : (cs.flatMap escape).count '\r' = cs.count '\r' := by
    induction cs with
    | nil => rfl
    | cons c cs ih =>
      have hc : (escape c).count '\r' = [c].count '\r' := by
        unfold escape
        split
        · next hspecial => rcases hspecial with rfl | rfl | rfl <;> rfl
        · split
          · next hfeed =>
            subst hfeed
            rfl
          · rfl
      rw [List.flatMap_cons, List.count_append, hc, ih, ← List.count_append]
      rfl
  simp [returns, literal, hescape]

theorem returns_joined {separator : String} (hseparator : returns separator = 0)
    (texts : List String) : returns (Text.joined separator texts) = (texts.map returns).sum := by
  fun_induction Text.joined separator texts with
  | case1 => rfl
  | case2 text => simp
  | case3 text rest _ ih => simp [hseparator, ih]

theorem returns_lines (texts : List String) :
    returns (Text.lines texts) = (texts.map returns).sum :=
  returns_joined (by decide) texts

/-- A literal stands on as many lines as its text has carriage returns, and one more. -/
theorem length_codeLinesOf_literal (value : String) :
    (codeLinesOf (literal value)).length = returns value + 1 := by
  rw [length_codeLinesOf, Text.linesOf_eq_singleton (lineFeed_notMem_literal value),
    returns_literal, List.length_singleton]
  omega

example : codeLinesOf (literal "calm\rsea") = ["'calm".toList, "sea'".toList] := by decide

theorem length_switchLines (cases : List (String × String)) :
    (switchLines cases).length = max (2 * cases.length) 1 := by
  unfold switchLines
  split
  · next hempty => simp [hempty]
  · next hsome =>
    have hpairs : (cases.flatMap caseLines).length = 2 * cases.length := by
      simp [List.length_flatMap, caseLines, Nat.mul_comm]
    have hpositive : 0 < cases.length := List.length_pos_iff.mpr hsome
    omega

/-- The number of lines that an enumeration is laid out on: those that all of them have, those of
    its members and of its two switches, and those of the labels if there are locales. -/
def layoutLength (values locales labels : Nat) : Nat :=
  13 + max values 1 + 2 * max (2 * values) 1 +
    if locales = 0 then 0 else 5 + 2 * locales + labels

namespace EnumClass

/-- The tables of the locales, with the labels that belong to values. -/
def shownTables (enum : EnumClass) : Translations :=
  (enum.translations.getD []).map fun (locale, labels) => (locale, shownLabels enum.values labels)

/-- The number of labels that are shown in all locales together. -/
def labelCount (enum : EnumClass) : Nat :=
  (enum.shownTables.map fun (_, labels) => labels.length).sum

/-- The texts that the section of the labels shows as literals. -/
def labelTexts (enum : EnumClass) : List String :=
  enum.shownTables.flatMap fun (locale, labels) =>
    locale :: labels.flatMap fun (value, label) => [value, label]

/-- The texts of which literals are made, one for each literal in the enumeration. -/
def literalTexts (enum : EnumClass) : List String :=
  enum.values ++ enum.values ++ enum.labelTexts

/-- Each member stands on a line of its own; without a member one is left for the semicolon. -/
theorem length_linesOf_members (enum : EnumClass) :
    (linesOf enum.members).length = max enum.values.length 1 := by
  have hjoined (texts : List String) (htexts : ∀ text ∈ texts, '\n' ∉ text.toList) :
      (linesOf (Text.joined ",\n" texts ++ ";")).length = max texts.length 1 := by
    fun_induction Text.joined ",\n" texts with
    | case1 => rfl
    | case2 text =>
      have htext := htexts text (List.mem_singleton_self text)
      rw [Text.linesOf_eq_singleton (by simpa using htext)]
      rfl
    | case3 text rest hrest ih =>
      rw [List.forall_mem_cons] at htexts
      have hlines : text ++ ",\n" ++ Text.joined ",\n" rest ++ ";" =
          (text ++ ",") ++ "\n" ++ (Text.joined ",\n" rest ++ ";") := by
        simp [← String.toList_inj]
      have hpositive : 0 < rest.length := List.length_pos_iff.mpr hrest
      rw [hlines, Text.linesOf_append_lineFeed, List.length_append, ih htexts.2,
        Text.linesOf_eq_singleton (by simpa using htexts.1), List.length_singleton,
        List.length_cons]
      omega
  rw [members, hjoined, List.length_map]
  refine List.forall_mem_map.mpr fun value _ => ?_
  rw [String.toList_append, List.mem_append, not_or]
  exact ⟨by decide, fun hc => absurd (isIdentifierCharacter_of_mem_propertyName _ hc) (by decide)⟩

theorem length_bodyLines (enum : EnumClass) :
    enum.bodyLines.length = 12 + max enum.values.length 1 + 2 * max (2 * enum.values.length) 1 := by
  simp only [bodyLines, upperLines, headLines, List.length_append, List.length_cons,
    List.length_nil, length_linesOf_members, length_switchLines, memberCases, valueCases,
    List.length_map]
  omega

/-- The section of the labels has a line for each of them, two for each locale and five more. -/
theorem length_translationSection (enum : EnumClass) :
    (enum.translationSection.flatMap linesOf).length =
      if enum.shownTables.length = 0 then 0
      else 5 + 2 * enum.shownTables.length + enum.labelCount := by
  cases hlabels : enum.translations with
  | none => simp [translationSection, shownTables, hlabels]
  | some table =>
    cases table with
    | nil => simp [translationSection, shownTables, hlabels]
    | cons entry table =>
      rw [linesOf_translationSection (List.cons_ne_nil entry table) hlabels]
      have htables (table : Translations) :
          (table.flatMap fun (locale, labels) => enum.localeLines locale labels).length =
            2 * table.length +
              (table.map fun (_, labels) => (shownLabels enum.values labels).length).sum := by
        induction table with
        | nil => rfl
        | cons entry table ih =>
          rw [List.flatMap_cons, List.length_append, ih, List.map_cons, List.sum_cons]
          simp only [localeLines, labelLines_eq, List.length_append, List.length_cons,
            List.length_nil, List.length_map]
          omega
      simp only [shownTables, labelCount, hlabels, Option.getD_some, List.length_map,
        List.length_cons, List.length_append, List.length_nil, List.map_map, Function.comp_def,
        htables]
      rw [if_neg (Nat.succ_ne_zero _)]
      omega

theorem length_linesOf_source {enum : EnumClass} (hname : '\n' ∉ enum.className.toList) :
    (linesOf enum.source).length =
      layoutLength enum.values.length enum.shownTables.length enum.labelCount := by
  rw [linesOf_source hname, List.length_append, List.length_append, length_bodyLines,
    length_translationSection, List.length_singleton, layoutLength]
  omega

theorem returns_cases (cases : List (String × String)) :
    returns (Text.lines (cases.map caseText)) =
      (cases.map fun entry => returns entry.1 + returns entry.2).sum := by
  have hcase (entry : String × String) :
      returns (caseText entry) = returns entry.1 + returns entry.2 := by
    have hparts : returns "      case " = 0 ∧ returns ":\n        return " = 0 ∧
        returns ";" = 0 := by
      decide
    simp [caseText, hparts]
  simp [returns_lines, Function.comp_def, hcase]

theorem returns_localeLines (enum : EnumClass) (locale : String)
    (labels : List (String × String)) :
    ((enum.localeLines locale labels).map returns).sum =
      returns locale + ((shownLabels enum.values labels).map fun label =>
        returns label.1 + returns label.2).sum := by
  have hparts : returns "    " = 0 ∧ returns ": \x7b" = 0 ∧ returns "    \x7d," = 0 ∧
      returns "      " = 0 ∧ returns ": " = 0 ∧ returns "," = 0 := by
    decide
  simp [localeLines, labelLines_eq, labelText, returns_literal, hparts, Function.comp_def]

theorem returns_translationSection (enum : EnumClass) :
    (enum.translationSection.map returns).sum = (enum.labelTexts.map returns).sum := by
  have hpairs (labels : List (String × String)) :
      ((labels.flatMap fun (value, label) => [value, label]).map returns).sum =
        (labels.map fun label => returns label.1 + returns label.2).sum := by
    induction labels with
    | nil => rfl
    | cons label labels ih => simp [ih, Nat.add_assoc]
  have htables (table : Translations) :
      ((table.flatMap fun (locale, labels) => enum.localeLines locale labels).map returns).sum =
        ((table.flatMap fun (locale, labels) => locale :: (shownLabels enum.values labels).flatMap
          fun (value, label) => [value, label]).map returns).sum := by
    induction table with
    | nil => rfl
    | cons entry table ih =>
      rw [List.flatMap_cons, List.flatMap_cons, List.map_append, List.map_append, List.sum_append,
        List.sum_append, ih, returns_localeLines, List.map_cons, List.sum_cons, hpairs]
  cases hlabels : enum.translations with
  | none => simp [translationSection, labelTexts, shownTables, hlabels]
  | some table =>
    cases table with
    | nil => simp [translationSection, labelTexts, shownTables, hlabels]
    | cons entry table =>
      have hsection : enum.translationSection = "" :: enum.translationLines (entry :: table) := by
        rw [translationSection, hlabels]
      rw [hsection, translationLines, labelTexts, shownTables, hlabels, Option.getD_some,
        List.flatMap_map, ← htables]
      simp only [List.map_cons, List.map_append, List.map_nil, List.sum_cons, List.sum_append,
        List.sum_nil]
      simp (disch := decide) only [returns_eq_zero, Nat.zero_add, Nat.add_zero]

theorem returns_source {enum : EnumClass} (hname : '\r' ∉ enum.className.toList) :
    returns enum.source = (enum.literalTexts.map returns).sum := by
  have hclass : returns enum.className = 0 := returns_eq_zero hname
  have hmember (value : String) : returns (enum.memberOf value) = 0 := by
    simp [memberOf, hclass, returns_propertyName, show returns "." = 0 by decide]
  have hmembers : returns enum.members = 0 := by
    have hparts : returns "  " = 0 ∧ returns ";" = 0 := by decide
    rw [members, returns_append, returns_joined (by decide)]
    simp [Function.comp_def, returns_propertyName, hparts]
  have htoJson : returns enum.toJsonCases = (enum.values.map returns).sum := by
    rw [toJsonCases_eq, returns_cases, memberCases]
    simp [Function.comp_def, hmember, returns_literal]
  have hfromJson : returns enum.fromJsonCases = (enum.values.map returns).sum := by
    rw [fromJsonCases_eq, returns_cases, valueCases]
    simp [Function.comp_def, hmember, returns_literal]
  rw [source, returns_lines, sourceLines, List.map_append, List.map_append, List.sum_append,
    List.sum_append, returns_translationSection]
  simp only [List.map_cons, List.map_nil, List.sum_cons, List.sum_nil, returns_append, hclass,
    hmembers, htoJson, hfromJson, literalTexts, List.map_append, List.sum_append]
  simp (disch := decide) only [returns_eq_zero]
  omega

end EnumClass

/-- The declaration of an enum has the lines that its numbers of values, of locales and of labels
    lay out, and further ones for the carriage returns in these texts: each of them ends a line
    inside a literal. So the lines are those laid out if and only if no text that is written as a
    literal has a carriage return in it. -/
theorem codeLinesOf_declaration_enum (name : String) (values : List String)
    (labels : Option Translations) :
    ∃ source, declaration (.enum (.text name) (values.map .text) labels) = .ok source ∧
      let enum := EnumClass.mk (className name) values labels
      (linesOf source).length =
        layoutLength values.length enum.shownTables.length enum.labelCount ∧
      (codeLinesOf source).length =
        (linesOf source).length + (enum.literalTexts.map returns).sum ∧
      (codeLinesOf source = linesOf source ↔ ∀ text ∈ enum.literalTexts, '\r' ∉ text.toList) ∧
      ∀ text, (codeLinesOf (literal text)).length = returns text + 1 := by
  let enum := EnumClass.mk (className name) values labels
  have hname : '\r' ∉ enum.className.toList := fun hc =>
    absurd (isAlphanum_of_mem_className _ hc) (by decide)
  have hreturns := EnumClass.returns_source hname
  refine ⟨enum.source, declaration_enum name values labels,
    EnumClass.length_linesOf_source (lineFeed_notMem_className name), ?_, ?_,
    length_codeLinesOf_literal⟩
  · rw [length_codeLinesOf, hreturns]
  · rw [codeLinesOf_eq_linesOf_iff, ← List.count_eq_zero]
    change returns enum.source = 0 ↔ _
    rw [hreturns, List.sum_eq_zero_iff_forall_eq_nat, List.forall_mem_map]
    exact forall₂_congr fun text _ => List.count_eq_zero

end DartModels.Dart
