import DartModels.Dart.Naming
import DartModels.Proofs.Text.Letters

namespace DartModels.Dart

open Text (isIdentifierCharacter isIdentifierCharacter_all)

theorem isAlphanum_toUpper {c : Char} (hc : c.isAlphanum = true) : c.toUpper.isAlphanum = true :=
  isIdentifierCharacter_all (fun c => c.isAlphanum = true → c.toUpper.isAlphanum = true)
    (by decide) (by simp [isIdentifierCharacter, hc]) hc

theorem isAlphanum_toLower {c : Char} (hc : c.isAlphanum = true) : c.toLower.isAlphanum = true :=
  isIdentifierCharacter_all (fun c => c.isAlphanum = true → c.toLower.isAlphanum = true)
    (by decide) (by simp [isIdentifierCharacter, hc]) hc

theorem isAlphanum_of_mem_capitalizeWords {startsWord : Bool} {cs : List Char} {c : Char}
    (hc : c ∈ capitalizeWords startsWord cs) : c.isAlphanum = true := by
  induction cs generalizing startsWord with
  | nil => cases hc
  | cons first rest ih =>
    rw [capitalizeWords] at hc
    split at hc
    · next hfirst =>
      rcases List.mem_cons.mp hc with rfl | hc
      · split
        · exact isAlphanum_toUpper hfirst
        · exact hfirst
      · exact ih hc
    · exact ih hc

/-- Nothing is left of a name without letters and digits. -/
theorem capitalizeWords_eq_nil_iff {startsWord : Bool} {cs : List Char} :
    capitalizeWords startsWord cs = [] ↔ ∀ c ∈ cs, c.isAlphanum = false := by
  induction cs generalizing startsWord with
  | nil => simp [capitalizeWords]
  | cons first rest ih =>
    rw [capitalizeWords]
    cases hfirst : first.isAlphanum with
    | true => simp [hfirst]
    | false => simp [hfirst, ih]

theorem isAlphanum_of_mem_guardDigit {cs : List Char} (hcs : ∀ c ∈ cs, c.isAlphanum = true) :
    ∀ c ∈ guardDigit cs, c.isAlphanum = true := by
  cases cs with
  | nil => exact hcs
  | cons first rest =>
    rw [guardDigit]
    split
    · exact List.forall_mem_cons.mpr ⟨by decide, hcs⟩
    · exact hcs

theorem isAlphanum_of_mem_className {name : String} :
    ∀ c ∈ (className name).toList, c.isAlphanum = true := by
  rw [className, String.toList_ofList]
  exact isAlphanum_of_mem_guardDigit fun c => isAlphanum_of_mem_capitalizeWords

theorem guardDigit_eq_nil_iff {cs : List Char} : guardDigit cs = [] ↔ cs = [] := by
  cases cs with
  | nil => simp [guardDigit]
  | cons first rest =>
    rw [guardDigit]
    split <;> simp

theorem toList_className_eq_nil_iff {name : String} :
    (className name).toList = [] ↔ ∀ c ∈ name.toList, c.isAlphanum = false := by
  rw [className, String.toList_ofList, guardDigit_eq_nil_iff, capitalizeWords_eq_nil_iff]

theorem isAlphanum_of_mem_uncapitalize {cs : List Char} (hcs : ∀ c ∈ cs, c.isAlphanum = true) :
    ∀ c ∈ uncapitalize cs, c.isAlphanum = true := by
  cases cs with
  | nil => exact hcs
  | cons first rest =>
    rw [List.forall_mem_cons] at hcs
    exact List.forall_mem_cons.mpr ⟨isAlphanum_toLower hcs.1, hcs.2⟩

/-- The letters of a property name are those of the class name with a small one in front, and an
    underscore may stand behind them. -/
theorem propertyName_eq (name : String) : ∃ ending, (ending = "" ∨ ending = "_") ∧
    propertyName name = String.ofList (uncapitalize (className name).toList) ++ ending ∧
      ((className name).toList = [] → ending = "") := by
  unfold propertyName
  dsimp only
  split
  · next hreserved =>
    refine ⟨"_", .inr rfl, rfl, fun hempty => ?_⟩
    rw [hempty] at hreserved
    exact absurd hreserved (by decide)
  · exact ⟨"", .inl rfl, by simp, fun _ => rfl⟩

theorem isIdentifierCharacter_of_mem_propertyName {name : String} :
    ∀ c ∈ (propertyName name).toList, isIdentifierCharacter c = true := by
  obtain ⟨ending, hending, hname, -⟩ := propertyName_eq name
  rw [hname, String.toList_append, String.toList_ofList]
  refine List.forall_mem_append.mpr ⟨fun c hc => ?_, ?_⟩
  · have hletter := isAlphanum_of_mem_uncapitalize isAlphanum_of_mem_className c hc
    simp [isIdentifierCharacter, hletter]
  · rcases hending with rfl | rfl <;> decide

/-- A property has a name if and only if there are letters or digits to make one of. -/
theorem propertyName_eq_empty_iff {name : String} :
    propertyName name = "" ↔ ∀ c ∈ name.toList, c.isAlphanum = false := by
  obtain ⟨ending, -, hname, hending⟩ := propertyName_eq name
  rw [hname, ← toList_className_eq_nil_iff, ← String.toList_inj]
  cases hclass : (className name).toList with
  | nil => simp [hending hclass, uncapitalize]
  | cons first rest => simp [uncapitalize]

theorem isAlphanum_of_isUpper {c : Char} (hc : c.isUpper = true) : c.isAlphanum = true := by
  have hletter : c.isAlpha = true := (Bool.or_eq_true _ _).mpr (.inl hc)
  rw [Char.isAlphanum, hletter, Bool.true_or]

theorem isAlphanum_of_isLower {c : Char} (hc : c.isLower = true) : c.isAlphanum = true := by
  have hletter : c.isAlpha = true := (Bool.or_eq_true _ _).mpr (.inr hc)
  rw [Char.isAlphanum, hletter, Bool.true_or]

/-- A capital and its small letter make each other. -/
theorem toUpper_toLower_of_isUpper {c : Char} (hc : c.isUpper = true) :
    c.toUpper = c ∧ c.toLower.isLower = true ∧ c.toLower.toUpper = c :=
  isIdentifierCharacter_all (fun c => c.isUpper = true → c.toUpper = c ∧
    c.toLower.isLower = true ∧ c.toLower.toUpper = c) (by decide)
    (by simp [isIdentifierCharacter, isAlphanum_of_isUpper hc]) hc

theorem isUpper_or_isDigit_toUpper {c : Char} (hc : c.isAlphanum = true) :
    c.toUpper.isUpper = true ∨ c.toUpper.isDigit = true :=
  isIdentifierCharacter_all
    (fun c => c.isAlphanum = true → c.toUpper.isUpper = true ∨ c.toUpper.isDigit = true)
    (by decide) (by simp [isIdentifierCharacter, hc]) hc

theorem isDigit_eq_false_of_isUpper {c : Char} (hc : c.isUpper = true) : c.isDigit = false :=
  isIdentifierCharacter_all (fun c => c.isUpper = true → c.isDigit = false) (by decide)
    (by simp [isIdentifierCharacter, isAlphanum_of_isUpper hc]) hc

/-- A class name is a capital with letters and digits behind it. -/
def IsClassName (name : String) : Prop :=
  ∃ first rest, name.toList = first :: rest ∧ first.isUpper = true ∧
    ∀ c ∈ rest, c.isAlphanum = true

/-- A property name starts with a small letter and is no word that Dart keeps for itself. It has
    letters and digits only, but for the underscore behind such a word. -/
structure IsPropertyName (name : String) : Prop where
  small : ∃ first rest, name.toList = first :: rest ∧ first.isLower = true
  unreserved : name ∉ reservedWords
  characters : (∀ c ∈ name.toList, c.isAlphanum = true) ∨ ∃ word ∈ reservedWords, name = word ++ "_"

theorem isUpper_or_isDigit_of_capitalizeWords {cs rest : List Char} {first : Char}
    (h : capitalizeWords true cs = first :: rest) :
    first.isUpper = true ∨ first.isDigit = true := by
  induction cs with
  | nil => cases h
  | cons c cs ih =>
    rw [capitalizeWords] at h
    split at h
    · next hc =>
      cases h
      exact isUpper_or_isDigit_toUpper hc
    · exact ih h

/-- What is left of a name is a class name. -/
theorem isClassName_className {name : String} (hname : (className name).toList ≠ []) :
    IsClassName (className name) := by
  have hletters : ∀ c ∈ (className name).toList, c.isAlphanum = true :=
    isAlphanum_of_mem_className
  rw [className, String.toList_ofList] at hname hletters
  rw [IsClassName, className, String.toList_ofList]
  cases hwords : capitalizeWords true name.toList with
  | nil =>
    rw [hwords] at hname
    exact absurd rfl hname
  | cons first rest =>
    rw [hwords] at hletters
    rw [guardDigit] at hletters ⊢
    split at hletters
    · next hdigit =>
      rw [if_pos hdigit]
      exact ⟨_, _, rfl, by decide, fun c hc => hletters c (List.mem_cons_of_mem _ hc)⟩
    · next hdigit =>
      rw [if_neg hdigit]
      have hupper := (isUpper_or_isDigit_of_capitalizeWords hwords).resolve_right hdigit
      exact ⟨_, _, rfl, hupper, fun c hc => hletters c (List.mem_cons_of_mem _ hc)⟩

/-- Inside a word letters stay as they are. -/
theorem capitalizeWords_append {cs : List Char} (hcs : ∀ c ∈ cs, c.isAlphanum = true)
    (rest : List Char) : capitalizeWords false (cs ++ rest) = cs ++ capitalizeWords false rest := by
  induction cs with
  | nil => rfl
  | cons c cs ih =>
    rw [List.forall_mem_cons] at hcs
    rw [List.cons_append, capitalizeWords, if_pos hcs.1, ih hcs.2]
    rfl

/-- A single word, with or without an underscore behind it, keeps its letters but for the
    first. -/
theorem className_word {first : Char} {rest : List Char} (hfirst : first.isAlphanum = true)
    (hupper : first.toUpper.isUpper = true) (hrest : ∀ c ∈ rest, c.isAlphanum = true)
    {ending : String} (hending : ending = "" ∨ ending = "_") :
    className (String.ofList (first :: rest) ++ ending) =
      String.ofList (first.toUpper :: rest) := by
  have hend : capitalizeWords false ending.toList = [] := by
    rcases hending with rfl | rfl <;> rfl
  rw [className, String.toList_append, String.toList_ofList, List.cons_append, capitalizeWords,
    if_pos hfirst, if_pos rfl, capitalizeWords_append hrest, hend, List.append_nil, guardDigit,
    if_neg (by simp [isDigit_eq_false_of_isUpper hupper])]

/-- A class name is its own class name. -/
theorem className_of_isClassName {name : String} (hname : IsClassName name) :
    className name = name := by
  obtain ⟨first, rest, htext, hupper, hrest⟩ := hname
  have hself := (toUpper_toLower_of_isUpper hupper).1
  have hword := className_word (isAlphanum_of_isUpper hupper) (hself.symm ▸ hupper) hrest (.inl rfl)
  rwa [hself, String.append_empty, ← htext, String.ofList_toList] at hword

theorem className_className (name : String) : className (className name) = className name := by
  by_cases hempty : (className name).toList = []
  · rw [String.toList_eq_nil_iff.mp hempty]
    rfl
  · exact className_of_isClassName (isClassName_className hempty)

/-- A property gives back the class name that it was made of. -/
theorem className_propertyName (name : String) :
    className (propertyName name) = className name := by
  obtain ⟨ending, hending, hproperty, hplain⟩ := propertyName_eq name
  rw [hproperty]
  by_cases hempty : (className name).toList = []
  · rw [hplain hempty, hempty, String.toList_eq_nil_iff.mp hempty]
    rfl
  · obtain ⟨first, rest, htext, hupper, hrest⟩ := isClassName_className hempty
    obtain ⟨-, hlower, hback⟩ := toUpper_toLower_of_isUpper hupper
    have hword := className_word (isAlphanum_of_isLower hlower) (hback.symm ▸ hupper) hrest hending
    rw [htext, uncapitalize, hword, hback, ← htext, String.ofList_toList]

/-- Names of one class are one property. -/
theorem propertyName_congr {name other : String} (h : className name = className other) :
    propertyName name = propertyName other := by
  rw [propertyName, propertyName, h]

theorem propertyName_notMem_reservedWords (name : String) : propertyName name ∉ reservedWords := by
  have hunderscore : ∀ word ∈ reservedWords, '_' ∉ word.toList := by decide
  unfold propertyName
  dsimp only
  split
  · intro hmem
    exact hunderscore _ hmem (by simp)
  · next hplain => simpa using hplain

theorem isPropertyName_propertyName {name : String} (hname : (className name).toList ≠ []) :
    IsPropertyName (propertyName name) := by
  obtain ⟨first, rest, htext, hupper, hrest⟩ := isClassName_className hname
  obtain ⟨-, hlower, -⟩ := toUpper_toLower_of_isUpper hupper
  have hletters : ∀ c ∈ uncapitalize (className name).toList, c.isAlphanum = true :=
    isAlphanum_of_mem_uncapitalize isAlphanum_of_mem_className
  refine ⟨?_, propertyName_notMem_reservedWords name, ?_⟩
  · obtain ⟨ending, -, hproperty, -⟩ := propertyName_eq name
    refine ⟨first.toLower, rest ++ ending.toList, ?_, hlower⟩
    rw [hproperty, htext, uncapitalize, String.toList_append, String.toList_ofList,
      List.cons_append]
  · unfold propertyName
    dsimp only
    split
    · next hreserved => exact .inr ⟨_, by simpa using hreserved, rfl⟩
    · left
      rwa [String.toList_ofList]

/-- The laws of names. A name without letters and digits is left empty in both forms. Any other
    name makes a class name and a property name, which give each other back and themselves. So
    two names meet as properties exactly where they meet as classes. -/
theorem className_propertyName_laws (name : String) :
    ((∀ c ∈ name.toList, c.isAlphanum = false) ∧ className name = "" ∧ propertyName name = "" ∨
      (∃ c ∈ name.toList, c.isAlphanum = true) ∧ IsClassName (className name) ∧
        IsPropertyName (propertyName name)) ∧
    className (className name) = className name ∧
    propertyName (propertyName name) = propertyName name ∧
    className (propertyName name) = className name ∧
    propertyName (className name) = propertyName name ∧
    ∀ other, propertyName name = propertyName other ↔ className name = className other := by
  refine ⟨?_, className_className name, propertyName_congr (className_propertyName name),
    className_propertyName name, propertyName_congr (className_className name), fun other =>
    ⟨fun h => ?_, propertyName_congr⟩⟩
  · by_cases hempty : (className name).toList = []
    · have hnone := toList_className_eq_nil_iff.mp hempty
      exact .inl ⟨hnone, String.toList_eq_nil_iff.mp hempty, propertyName_eq_empty_iff.mpr hnone⟩
    · refine .inr ⟨?_, isClassName_className hempty, isPropertyName_propertyName hempty⟩
      rw [toList_className_eq_nil_iff] at hempty
      push Not at hempty
      simpa using hempty
  · rw [← className_propertyName name, h, className_propertyName]

end DartModels.Dart
