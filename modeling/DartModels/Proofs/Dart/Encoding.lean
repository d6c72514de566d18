import DartModels.Dart.Enum
import DartModels.Dart.Source
import DartModels.Proofs.Dart.Naming
import DartModels.Proofs.Text.Lines

namespace DartModels.Dart

variable [Text.HalfBlock]

/-- The escapes of a literal neither bring in a half of a character nor lose one. -/
theorem isEncodable_literal (value : String) :
    Text.isEncodable (literal value) = Text.isEncodable value := by
  have hplain : ∀ c ∈ ['\\', '\'', '$', '\n', 'n'], Text.isHalf c = false :=
    fun c hc => Text.isHalf_eq_false (by revert c; decide)
  have hescape (c : Char) : (escape c).any Text.isHalf = Text.isHalf c := by
    unfold escape
    split_ifs with hspecial hfeed
    · have hc : c ∈ ['\\', '\'', '$', '\n', 'n'] := by rcases hspecial with rfl | rfl | rfl <;> simp
      simp [hplain c hc, hplain '\\' (by simp)]
    · subst hfeed
      simp [hplain]
    · simp
  have hall (cs : List Char) : (cs.flatMap escape).any Text.isHalf = cs.any Text.isHalf := by
    simp [List.any_flatMap, hescape]
  simp [literal, Text.isEncodable, hall, hplain]

theorem isEncodable_of_identifier {text : String}
    (h : ∀ c ∈ text.toList, Text.isIdentifierCharacter c = true) : Text.isEncodable text = true :=
  Text.isEncodable_of_plain <| by
    simp only [List.all_eq_true, decide_eq_true_eq]
    exact fun c hc => Nat.lt_trans (Text.toNat_lt_of_isIdentifierCharacter (h c hc)) (by decide)

theorem isEncodable_propertyName (name : String) : Text.isEncodable (propertyName name) = true :=
  isEncodable_of_identifier isIdentifierCharacter_of_mem_propertyName

theorem isEncodable_className (name : String) : Text.isEncodable (className name) = true :=
  isEncodable_of_identifier fun c hc => by
    simp [Text.isIdentifierCharacter, isAlphanum_of_mem_className c hc]

theorem isEncodable_prelude : Text.isEncodable prelude = true := by
  rw [prelude, Text.lines, Text.isEncodable_joined (Text.isEncodable_of_plain (by decide)),
    List.all_eq_true]
  repeat refine List.forall_mem_cons.mpr ⟨Text.isEncodable_of_plain (by decide +kernel), ?_⟩
  exact List.forall_mem_nil _

/-- An enumeration can be encoded if and only if its values and its labels can be. -/
theorem EnumClass.isEncodable_source {enum : EnumClass}
    (hclass : Text.isEncodable enum.className = true) :
    Text.isEncodable enum.source =
      (enum.values.all Text.isEncodable && enum.translationSection.all Text.isEncodable) := by
  have hfixed : ∀ part ∈ ["\n", ",\n", "  ", ";", "      case ", ".", ":\n        return ", "enum ",
      " \x7b", "  String toJson() \x7b", "    switch (this) \x7b", "    \x7d", "  \x7d",
      "  factory ", ".fromJson(String name) \x7b", "    switch (name) \x7b",
      "    throw ArgumentError.value(name, \"name\", \"No enum value with that name\");",
      "\x7d", ""], Text.isEncodable part = true := by
    intro part hpart
    have hplain : (part.toList.all fun c => c.toNat < 0xf0000) = true := by
      revert part
      decide +kernel
    exact Text.isEncodable_of_plain hplain
  simp only [List.forall_mem_cons, List.not_mem_nil, false_imp_iff, implies_true, and_true]
    at hfixed
  obtain ⟨hline, hcomma, hrest⟩ := hfixed
  have hmembers : Text.isEncodable enum.members = true := by
    simp [members, Text.isEncodable_append, Text.isEncodable_joined hcomma, hrest,
      isEncodable_propertyName]
  have hto : Text.isEncodable enum.toJsonCases = enum.values.all Text.isEncodable := by
    simp [toJsonCases, Text.lines, Text.isEncodable_append, Text.isEncodable_joined hline, hrest,
      hclass, isEncodable_propertyName, isEncodable_literal, Function.comp_def]
  have hof : Text.isEncodable enum.fromJsonCases = enum.values.all Text.isEncodable := by
    simp [fromJsonCases, Text.lines, Text.isEncodable_append, Text.isEncodable_joined hline, hrest,
      hclass, isEncodable_propertyName, isEncodable_literal, Function.comp_def]
  rw [source, Text.lines, Text.isEncodable_joined hline, sourceLines]
  simp [Text.isEncodable_append, hmembers, hto, hof, hclass, hrest]

end DartModels.Dart
