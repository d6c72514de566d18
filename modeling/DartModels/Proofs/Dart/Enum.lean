import DartModels.Dart.Declaration
import DartModels.Proofs.Dart.Evaluation
import DartModels.Proofs.Dart.Literal
import DartModels.Proofs.Dart.Naming
import DartModels.Proofs.Json.Distinct
import DartModels.Proofs.Text.Lines
import Mathlib.Data.List.Nodup

namespace DartModels.Dart

open Text (linesOf)

/-- The lines behind the first one that says so. -/
def behind (marker : String) (lines : List (List Char)) : List (List Char) :=
  (lines.dropWhile (· != marker.toList)).tail

/-- What stands between the start and the end of a line. -/
def between? (start ending : String) (line : List Char) : Option (List Char) := do
  let rest ← line.dropPrefix? start.toList
  rest.dropSuffix? ending.toList

/-- Reads the cases of a switch up to its end: what each one tests for, and what it returns. Empty
    lines are passed over. -/
def readCases : List (List Char) → Option (List (List Char × List Char))
  | [] => none
  | [] :: rest => readCases rest
  | test :: rest =>
    if test = "    \x7d".toList then some []
    else
      match rest with
      | [] => none
      | result :: rest => do
        let test ← between? "      case " ":" test
        let result ← between? "        return " ";" result
        return (test, result) :: (← readCases rest)

/-- The line that begins the switch of `toJson`. -/
def membersMarker : String := "    switch (this) \x7b"

/-- The line that begins the switch of `fromJson`. -/
def valuesMarker : String := "    switch (name) \x7b"

/-- The cases of `toJson`: members and the values that they stand for. -/
def memberCases? (source : String) : Option (List (String × String)) := do
  let cases ← readCases (behind membersMarker (linesOf source))
  cases.mapM fun (member, value) => do return (String.ofList member, ← literalValue? value)

/-- The cases of `fromJson`: values and their members. -/
def valueCases? (source : String) : Option (List (String × String)) := do
  let cases ← readCases (behind valuesMarker (linesOf source))
  cases.mapM fun (value, member) => do return (← literalValue? value, String.ofList member)

/-- The value that `toJson` returns for a member. The first case that fits counts. -/
def toJson? (source member : String) : Option String := do
  (← memberCases? source).lookup member

/-- The member that `fromJson` returns for a value. The first case that fits counts. -/
def fromJson? (source value : String) : Option String := do
  (← valueCases? source).lookup value

theorem behind_append {marker : String} {front : List (List Char)}
    (hfront : ∀ line ∈ front, line ≠ marker.toList) (rest : List (List Char)) :
    behind marker (front ++ marker.toList :: rest) = rest := by
  have hdrop : (front ++ marker.toList :: rest).dropWhile (· != marker.toList) =
      marker.toList :: rest := by
    rw [List.dropWhile_append_of_pos (by simpa using hfront)]
    simp
  rw [behind, hdrop, List.tail_cons]

theorem between?_append (start ending : String) (middle : List Char) :
    between? start ending (start.toList ++ middle ++ ending.toList) = some middle := by
  have hstart : (start.toList ++ middle ++ ending.toList).dropPrefix? start.toList =
      some (middle ++ ending.toList) :=
    List.dropPrefix?_eq_some_iff.mpr ⟨start.toList, by simp, by simp⟩
  have hending : (middle ++ ending.toList).dropSuffix? ending.toList = some middle :=
    List.dropSuffix?_eq_some_iff.mpr ⟨ending.toList, rfl, by simp⟩
  rw [between?, hstart]
  exact hending

/-- A line differs from all that start in another way. -/
theorem append_ne {start marker : String} (h : ¬ start.toList <+: marker.toList)
    (rest : List Char) : start.toList ++ rest ≠ marker.toList :=
  fun heq => h ⟨rest, heq⟩

/-- The text of a case. -/
def caseText (entry : String × String) : String :=
  "      case " ++ entry.1 ++ ":\n        return " ++ entry.2 ++ ";"

/-- The lines of a case. -/
def caseLines (entry : String × String) : List (List Char) :=
  [("      case " ++ entry.1 ++ ":").toList, ("        return " ++ entry.2 ++ ";").toList]

/-- The lines of the cases of a switch; without a case an empty one is left. -/
def switchLines (cases : List (String × String)) : List (List Char) :=
  if cases = [] then [[]] else cases.flatMap caseLines

/-- Nothing in a case ends its line. -/
def OnLines (cases : List (String × String)) : Prop :=
  ∀ entry ∈ cases, '\n' ∉ entry.1.toList ∧ '\n' ∉ entry.2.toList

theorem linesOf_caseText {entry : String × String}
    (hentry : '\n' ∉ entry.1.toList ∧ '\n' ∉ entry.2.toList) :
    linesOf (caseText entry) = caseLines entry := by
  obtain ⟨test, result⟩ := entry
  have htext : caseText (test, result) =
      ("      case " ++ test ++ ":") ++ "\n" ++ ("        return " ++ result ++ ";") := by
    delta caseText
    simp [← String.toList_inj]
  rw [htext, Text.linesOf_append_lineFeed, Text.linesOf_eq_singleton, Text.linesOf_eq_singleton]
  · rfl
  · simpa using hentry.2
  · simpa using hentry.1

theorem linesOf_cases {cases : List (String × String)} (hcases : OnLines cases) :
    linesOf (Text.lines (cases.map caseText)) = switchLines cases := by
  unfold switchLines
  split
  · next hempty =>
    subst hempty
    rfl
  · next hsome =>
    rw [Text.linesOf_lines (by simpa using hsome), List.flatMap_map]
    exact List.flatMap_congr fun entry hentry => linesOf_caseText (hcases entry hentry)

theorem readCases_close (rest : List (List Char)) :
    readCases ("    \x7d".toList :: rest) = some [] := by
  cases rest <;> simp [readCases]

theorem readCases_caseLines (entry : String × String) (rest : List (List Char)) :
    readCases (caseLines entry ++ rest) =
      (readCases rest).map ((entry.1.toList, entry.2.toList) :: ·) := by
  obtain ⟨test, result⟩ := entry
  have htest := between?_append "      case " ":" test.toList
  have hresult := between?_append "        return " ";" result.toList
  have hopen : "      case ".toList ++ test.toList ++ ":".toList ≠ "    \x7d".toList := by
    rw [List.append_assoc]
    exact append_ne (by decide) _
  simp only [caseLines, String.toList_append]
  generalize "      case ".toList ++ test.toList ++ ":".toList = line at htest hopen ⊢
  generalize "        return ".toList ++ result.toList ++ ";".toList = next at hresult ⊢
  cases line with
  | nil => cases htest
  | cons first chars =>
    simp only [List.cons_append, List.nil_append]
    rw [readCases, if_neg hopen]
    · simp only [htest, hresult]
      cases readCases rest <;> rfl
    · simp

theorem readCases_switchLines (cases : List (String × String)) (rest : List (List Char)) :
    readCases (switchLines cases ++ "    \x7d".toList :: rest) =
      some (cases.map fun entry => (entry.1.toList, entry.2.toList)) := by
  have hcases : readCases (cases.flatMap caseLines ++ "    \x7d".toList :: rest) =
      some (cases.map fun entry => (entry.1.toList, entry.2.toList)) := by
    induction cases with
    | nil => exact readCases_close rest
    | cons entry cases ih =>
      rw [List.flatMap_cons, List.append_assoc, readCases_caseLines, ih]
      rfl
  unfold switchLines
  split
  · next hempty =>
    subst hempty
    exact readCases_close rest
  · exact hcases

namespace EnumClass

variable {enum : EnumClass}

/-- The member that stands for a value. -/
def memberOf (enum : EnumClass) (value : String) : String :=
  enum.className ++ "." ++ propertyName value

/-- The cases of `toJson`, in the order of the values. -/
def memberCases (enum : EnumClass) : List (String × String) :=
  enum.values.map fun value => (enum.memberOf value, literal value)

/-- The cases of `fromJson`, in the order of the values. -/
def valueCases (enum : EnumClass) : List (String × String) :=
  enum.values.map fun value => (literal value, enum.memberOf value)

theorem toJsonCases_eq : enum.toJsonCases = Text.lines (enum.memberCases.map caseText) := by
  delta toJsonCases memberCases memberOf caseText
  simp [String.append_assoc, Function.comp_def]

theorem fromJsonCases_eq : enum.fromJsonCases = Text.lines (enum.valueCases.map caseText) := by
  delta fromJsonCases valueCases memberOf caseText
  simp [String.append_assoc, Function.comp_def]

/-- The lines in front of the switch of `toJson`. -/
def headLines (enum : EnumClass) : List (List Char) :=
  ("enum " ++ enum.className ++ " \x7b").toList :: linesOf enum.members ++
    ["".toList, "  String toJson() \x7b".toList]

/-- The lines in front of the switch of `fromJson`. -/
def upperLines (enum : EnumClass) : List (List Char) :=
  enum.headLines ++ membersMarker.toList :: (switchLines enum.memberCases ++ "    \x7d".toList ::
    ["  \x7d".toList, "".toList,
      ("  factory " ++ enum.className ++ ".fromJson(String name) \x7b").toList])

/-- The lines in front of the section that holds the labels. -/
def bodyLines (enum : EnumClass) : List (List Char) :=
  enum.upperLines ++ valuesMarker.toList :: (switchLines enum.valueCases ++ "    \x7d".toList ::
    ["    throw ArgumentError.value(name, \"name\", \"No enum value with that name\");".toList,
      "  \x7d".toList])

theorem linesOf_source (hname : '\n' ∉ enum.className.toList) :
    linesOf enum.source =
      enum.bodyLines ++ (enum.translationSection.flatMap linesOf ++ ["\x7d".toList]) := by
  have hmember (value : String) : '\n' ∉ (enum.memberOf value).toList := by
    have hproperty : '\n' ∉ (propertyName value).toList := fun hc =>
      absurd (isIdentifierCharacter_of_mem_propertyName _ hc) (by decide)
    simp [memberOf, hname, hproperty]
  have hmembers : linesOf enum.toJsonCases = switchLines enum.memberCases := by
    rw [toJsonCases_eq, linesOf_cases]
    exact List.forall_mem_map.mpr fun value _ => ⟨hmember value, lineFeed_notMem_literal value⟩
  have hvalues : linesOf enum.fromJsonCases = switchLines enum.valueCases := by
    rw [fromJsonCases_eq, linesOf_cases]
    exact List.forall_mem_map.mpr fun value _ => ⟨lineFeed_notMem_literal value, hmember value⟩
  have hclass : linesOf ("enum " ++ enum.className ++ " \x7b") =
      [("enum " ++ enum.className ++ " \x7b").toList] :=
    Text.linesOf_eq_singleton (by simpa using hname)
  have hfactory : linesOf ("  factory " ++ enum.className ++ ".fromJson(String name) \x7b") =
      [("  factory " ++ enum.className ++ ".fromJson(String name) \x7b").toList] :=
    Text.linesOf_eq_singleton (by simpa using hname)
  rw [source, Text.linesOf_lines (by simp [sourceLines])]
  simp only [sourceLines, List.flatMap_append, List.flatMap_cons, List.flatMap_nil, hclass,
    hfactory, hmembers, hvalues]
  simp (disch := decide) only [Text.linesOf_eq_singleton]
  simp only [bodyLines, upperLines, headLines, membersMarker, valuesMarker, List.append_assoc,
    List.cons_append, List.nil_append]

end EnumClass

/-- How lines of an enumeration start that may have any character in them. -/
def lineStarts : List String :=
  ["enum ", "  String toJson", "      case ", "        return ", "  factory "]

/-- A line that begins no section: it starts like the lines of every enumeration, or nothing is
    opened in it. -/
def BeginsNone (line : List Char) : Prop :=
  '\x7b' ∉ line ∨ ∃ start ∈ lineStarts, start.toList <+: line

theorem BeginsNone.ne {line : List Char} (h : BeginsNone line) {marker : String}
    (hbrace : '\x7b' ∈ marker.toList)
    (hstarts : ∀ start ∈ lineStarts, ¬ start.toList <+: marker.toList) : line ≠ marker.toList := by
  rintro rfl
  rcases h with h | ⟨start, hstart, h⟩
  · exact h hbrace
  · exact hstarts start hstart h

theorem beginsNone_append {start : String} (hstart : start ∈ lineStarts) (rest : List Char) :
    BeginsNone (start.toList ++ rest) :=
  .inr ⟨start, hstart, List.prefix_append _ _⟩

theorem beginsNone_switchLines (cases : List (String × String)) :
    ∀ line ∈ switchLines cases, BeginsNone line := by
  intro line hline
  unfold switchLines at hline
  split at hline
  · rw [List.mem_singleton.mp hline]
    exact .inl (by decide)
  · obtain ⟨⟨test, result⟩, -, hline⟩ := List.mem_flatMap.mp hline
    simp only [caseLines, List.mem_cons, List.not_mem_nil, or_false, String.toList_append,
      List.append_assoc] at hline
    rcases hline with rfl | rfl
    · exact beginsNone_append (by decide) _
    · exact beginsNone_append (by decide) _

namespace EnumClass

theorem brace_notMem_members (enum : EnumClass) : '\x7b' ∉ enum.members.toList := by
  rw [members, String.toList_append, List.mem_append, not_or]
  refine ⟨fun hc => ?_, by decide⟩
  rcases Text.mem_joined hc with hc | ⟨text, htext, hc⟩
  · exact absurd hc (by decide)
  · obtain ⟨value, -, rfl⟩ := List.mem_map.mp htext
    rw [String.toList_append, List.mem_append] at hc
    rcases hc with hc | hc
    · exact absurd hc (by decide)
    · exact absurd (isIdentifierCharacter_of_mem_propertyName _ hc) (by decide)

theorem beginsNone_headLines (enum : EnumClass) : ∀ line ∈ enum.headLines, BeginsNone line := by
  intro line hline
  simp only [headLines, List.cons_append, List.mem_cons, List.mem_append, List.not_mem_nil,
    or_false] at hline
  rcases hline with rfl | hline | rfl | rfl
  · rw [String.toList_append, String.toList_append, List.append_assoc]
    exact beginsNone_append (by decide) _
  · exact .inl fun hbrace => brace_notMem_members enum (Text.mem_of_mem_linesOf hline hbrace)
  · exact .inl (by decide)
  · exact .inr (by decide)

theorem beginsNone_upperLines (enum : EnumClass) :
    ∀ line ∈ enum.upperLines, line = membersMarker.toList ∨ BeginsNone line := by
  intro line hline
  simp only [upperLines, List.mem_append, List.mem_cons, List.not_mem_nil, or_false] at hline
  rcases hline with hline | rfl | hline | rfl | rfl | rfl | rfl
  · exact .inr (beginsNone_headLines enum line hline)
  · exact .inl rfl
  · exact .inr (beginsNone_switchLines _ line hline)
  · exact .inr (.inl (by decide))
  · exact .inr (.inl (by decide))
  · exact .inr (.inl (by decide))
  · rw [String.toList_append, String.toList_append, List.append_assoc]
    exact .inr (beginsNone_append (by decide) _)

theorem beginsNone_bodyLines (enum : EnumClass) : ∀ line ∈ enum.bodyLines,
    line = membersMarker.toList ∨ line = valuesMarker.toList ∨ BeginsNone line := by
  intro line hline
  simp only [bodyLines, List.mem_append, List.mem_cons, List.not_mem_nil, or_false] at hline
  rcases hline with hline | rfl | hline | rfl | rfl | rfl
  · exact (beginsNone_upperLines enum line hline).imp_right .inr
  · exact .inr (.inl rfl)
  · exact .inr (.inr (beginsNone_switchLines _ line hline))
  · exact .inr (.inr (.inl (by decide)))
  · exact .inr (.inr (.inl (by decide)))
  · exact .inr (.inr (.inl (by decide)))

variable {enum : EnumClass} (hname : '\n' ∉ enum.className.toList)
include hname

/-- The cases of `toJson` are read back. -/
theorem memberCases?_source :
    memberCases? enum.source =
      some (enum.values.map fun value => (enum.memberOf value, value)) := by
  have hfront : ∀ line ∈ enum.headLines, line ≠ membersMarker.toList := fun line hline =>
    (beginsNone_headLines enum line hline).ne (by decide) (by decide)
  rw [memberCases?, linesOf_source hname]
  simp only [bodyLines, upperLines, List.append_assoc, List.cons_append]
  rw [behind_append hfront, readCases_switchLines]
  simp only [memberCases, List.map_map, Option.bind_eq_bind, Option.bind_some]
  refine List.mapM_map.trans (mapM_eq_some fun value _ => ?_)
  simp [literalValue?_literal]

/-- The cases of `fromJson` are read back. -/
theorem valueCases?_source :
    valueCases? enum.source = some (enum.values.map fun value => (value, enum.memberOf value)) := by
  have hfront : ∀ line ∈ enum.upperLines, line ≠ valuesMarker.toList := by
    intro line hline
    rcases beginsNone_upperLines enum line hline with rfl | hnone
    · decide
    · exact hnone.ne (by decide) (by decide)
  rw [valueCases?, linesOf_source hname]
  simp only [bodyLines, List.append_assoc, List.cons_append]
  rw [behind_append hfront, readCases_switchLines]
  simp only [valueCases, List.map_map, Option.bind_eq_bind, Option.bind_some]
  refine List.mapM_map.trans (mapM_eq_some fun value _ => ?_)
  simp [literalValue?_literal]

/-- A value is read as its member. -/
theorem fromJson?_source (hvalues : enum.values.Nodup) {value : String}
    (hvalue : value ∈ enum.values) :
    fromJson? enum.source value = some (enum.memberOf value) := by
  rw [fromJson?, valueCases?_source hname]
  refine (Json.lookup_eq_some_iff ?_).mpr (List.mem_map.mpr ⟨value, hvalue, rfl⟩)
  simpa [Function.comp_def] using hvalues

/-- A member is written as the first value that is given its identifier. -/
theorem toJson?_source (value : String) :
    toJson? enum.source (enum.memberOf value) =
      enum.values.find? fun other => propertyName other = propertyName value := by
  rw [toJson?, memberCases?_source hname, Option.bind_eq_bind, Option.bind_some]
  induction enum.values with
  | nil => rfl
  | cons first rest ih =>
    have hmember : enum.memberOf value = enum.memberOf first ↔
        propertyName first = propertyName value := by
      simp [memberOf, eq_comm]
    rw [List.map_cons, List.lookup_cons, List.find?_cons, ih]
    by_cases hsame : propertyName first = propertyName value
    · simp [hmember.mpr hsame, hsame]
    · have hother : (enum.memberOf value == enum.memberOf first) = false :=
        beq_eq_false_iff_ne.mpr (mt hmember.mp hsame)
      simp [hother, hsame]

end EnumClass

theorem lineFeed_notMem_className (name : String) : '\n' ∉ (className name).toList := fun hc =>
  absurd (isAlphanum_of_mem_className _ hc) (by decide)

/-- The declaration of an enum of texts. -/
theorem declaration_enum (name : String) (values : List String) (labels : Option Translations) :
    declaration (.enum (.text name) (values.map .text) labels) =
      .ok (EnumClass.mk (className name) values labels).source := by
  have htexts : (values.map Json.text).all Json.isText = true := by simp [Json.isText]
  have hspelled : (values.map Json.text).map Json.spelling = values := by
    simp [Json.spelling, Function.comp_def]
  rw [declaration, htexts, enumClass, hspelled]
  rfl

/-- The first of some values with the identifier of each is the value itself if and only if no two
    of them share one. -/
theorem find?_propertyName_iff {values : List String} (hvalues : values.Nodup) :
    (∀ value ∈ values,
      values.find? (fun other => propertyName other = propertyName value) = some value) ↔
        (values.map propertyName).Nodup := by
  rw [List.nodup_map_iff_inj_on hvalues]
  constructor
  · intro hfirst value hvalue other hother hsame
    have hfound := hfirst value hvalue
    rw [hsame, hfirst other hother] at hfound
    exact (Option.some.inj hfound).symm
  · intro hdistinct value hvalue
    cases hfound : values.find? (fun other => propertyName other = propertyName value) with
    | none => simpa using List.find?_eq_none.mp hfound value hvalue
    | some first =>
      have hsame : propertyName first = propertyName value := by
        simpa using List.find?_some hfound
      rw [hdistinct first (List.mem_of_find?_eq_some hfound) value hvalue hsame]

/-- The switches of a declared enum read each value as the member with its identifier, and write
    a member as the first value with that identifier. So the values all come back if and only if
    no two of them share an identifier. One without letters and digits has an empty one. -/
theorem fromJson?_toJson? (name : String) {values : List String} (hvalues : values.Nodup)
    (labels : Option Translations) :
    ∃ source, declaration (.enum (.text name) (values.map .text) labels) = .ok source ∧
      (∀ value ∈ values, ∃ member, fromJson? source value = some member ∧
        member = className name ++ "." ++ propertyName value ∧
        toJson? source member =
          values.find? fun other => propertyName other = propertyName value) ∧
      ((∀ value ∈ values, (fromJson? source value).bind (toJson? source) = some value) ↔
        (values.map propertyName).Nodup) ∧
      ∀ value, propertyName value = "" ↔ ∀ c ∈ value.toList, c.isAlphanum = false := by
  let enum := EnumClass.mk (className name) values labels
  have hname : '\n' ∉ enum.className.toList := lineFeed_notMem_className name
  have hread : ∀ value ∈ values, fromJson? enum.source value = some (enum.memberOf value) :=
    fun value hvalue => EnumClass.fromJson?_source hname hvalues hvalue
  have hwritten : ∀ value, toJson? enum.source (enum.memberOf value) =
      values.find? fun other => propertyName other = propertyName value :=
    fun value => EnumClass.toJson?_source hname value
  refine ⟨enum.source, declaration_enum name values labels, fun value hvalue => ?_, ?_,
    fun value => propertyName_eq_empty_iff⟩
  · exact ⟨enum.memberOf value, hread value hvalue, rfl, hwritten value⟩
  · rw [← find?_propertyName_iff hvalues]
    refine forall₂_congr fun value hvalue => ?_
    rw [hread value hvalue, Option.bind_some, hwritten]

/-- Where identifiers tell the values apart, all values come back. -/
theorem fromJson?_toJson?_reserved :
    ["todo", "in_progress", "class"].Nodup ∧
      ∃ source, declaration (.enum (.text "task_status")
          (["todo", "in_progress", "class"].map .text) none) = .ok source ∧
        (fromJson? source "class").bind (toJson? source) = some "class" := by
  have hvalues : ["todo", "in_progress", "class"].Nodup := by decide
  obtain ⟨source, hsource, -, hback, -⟩ := fromJson?_toJson? "task_status" hvalues none
  exact ⟨hvalues, source, hsource, hback.mpr (by decide) "class" (by decide)⟩

/-- A letter and its capital have one identifier, so one of the two does not come back, and a sign
    has none. -/
theorem capital_merged :
    ["a", "A", "+"].Nodup ∧
      ∃ source, declaration (.enum (.text "grade") (["a", "A", "+"].map .text) none) = .ok source ∧
        (fromJson? source "A").bind (toJson? source) = some "a" ∧ "a" ≠ "A" ∧
        propertyName "A" = propertyName "a" ∧ propertyName "+" = "" := by
  have hvalues : ["a", "A", "+"].Nodup := by decide
  let enum := EnumClass.mk (className "grade") ["a", "A", "+"] none
  have hname : '\n' ∉ enum.className.toList := lineFeed_notMem_className "grade"
  have hread : fromJson? enum.source "A" = some (enum.memberOf "A") :=
    EnumClass.fromJson?_source hname hvalues (by decide)
  have hwritten : toJson? enum.source (enum.memberOf "A") = some "a" := by
    rw [EnumClass.toJson?_source hname]
    decide
  refine ⟨hvalues, enum.source, declaration_enum "grade" _ none, ?_, by decide, by decide,
    by decide⟩
  rw [hread, Option.bind_some, hwritten]

end DartModels.Dart
