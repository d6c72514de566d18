import DartModels.Text.Lowercase
import DartModels.Text.Occurrence
import Mathlib.Data.List.Infix
import Mathlib.Tactic.SplitIfs

namespace DartModels.Text

variable {c : Char} {cs : List Char}

/-- What is said of the characters in a list is decided at these, and not at all characters that
    there are. -/
instance decidableForallMem (cs : List Char) (holds : Char → Prop) [DecidablePred holds] :
    Decidable (∀ c ∈ cs, holds c) :=
  List.decidableBAll holds cs

/-- The letters, digits and underscores that identifiers are made of. -/
def isIdentifierCharacter (c : Char) : Bool :=
  c.isAlphanum || c == '_'

theorem toNat_lt_of_isIdentifierCharacter (hc : isIdentifierCharacter c = true) :
    c.toNat < 128 := by
  have hkind : (c.isUpper || c.isLower || c.isDigit || c == '_') = true := hc
  simp only [Bool.or_eq_true, beq_iff_eq] at hkind
  obtain ((hupper | hlower) | hdigit) | rfl := hkind
  · have hbounds : 'A'.val ≤ c.val ∧ c.val ≤ 'Z'.val := of_decide_eq_true hupper
    exact Nat.lt_of_le_of_lt (UInt32.le_iff_toNat_le.mp hbounds.2) (by decide)
  · have hbounds : (decide ('a'.val ≤ c.val) && decide (c.val ≤ 'z'.val)) = true := hlower
    simp only [Bool.and_eq_true, decide_eq_true_eq] at hbounds
    exact Nat.lt_of_le_of_lt (UInt32.le_iff_toNat_le.mp hbounds.2) (by decide)
  · have hbounds : (decide ('0'.val ≤ c.val) && decide (c.val ≤ '9'.val)) = true := hdigit
    simp only [Bool.and_eq_true, decide_eq_true_eq] at hbounds
    exact Nat.lt_of_le_of_lt (UInt32.le_iff_toNat_le.mp hbounds.2) (by decide)
  · decide

/-- What holds of the letters, digits and underscores is checked one by one. -/
theorem isIdentifierCharacter_all (holds : Char → Prop)
    (h : ∀ code < 128, isIdentifierCharacter (Char.ofNat code) = true → holds (Char.ofNat code))
    (hc : isIdentifierCharacter c = true) : holds c := by
  have hcode := h c.toNat (toNat_lt_of_isIdentifierCharacter hc)
  rw [Char.ofNat_toNat] at hcode
  exact hcode hc

/-- The letters and underscores that names of functions are made of. -/
def isNameCharacter (c : Char) : Bool :=
  c.isAlpha || c == '_'

theorem isIdentifierCharacter_of_isNameCharacter (hc : isNameCharacter c = true) :
    isIdentifierCharacter c = true := by
  simp only [isNameCharacter, isIdentifierCharacter, Char.isAlphanum, Bool.or_eq_true] at hc ⊢
  exact hc.imp_left .inl

/-- What holds of the letters and underscores is checked one by one. -/
theorem isNameCharacter_all (holds : Char → Prop)
    (h : ∀ code < 128, isNameCharacter (Char.ofNat code) = true → holds (Char.ofNat code))
    (hc : isNameCharacter c = true) : holds c :=
  isIdentifierCharacter_all (fun c => isNameCharacter c = true → holds c)
    (fun code hcode _ => h code hcode) (isIdentifierCharacter_of_isNameCharacter hc) hc

/-- A letter in capitals is a letter. -/
theorem isNameCharacter_of_toLower (h : isNameCharacter c.toLower = true) :
    isNameCharacter c = true := by
  by_cases hupper : c.isUpper = true
  · have hletter : c.isAlpha = true := (Bool.or_eq_true _ _).mpr (.inl hupper)
    rw [isNameCharacter, hletter, Bool.true_or]
  · have hself : c.toLower = c := dif_neg fun hbounds => hupper (decide_eq_true hbounds)
    rwa [hself] at h

theorem toList_toLower (name : String) : name.toLower.toList = name.toList.map Char.toLower :=
  String.toList_map

theorem toList_toUpper (name : String) : name.toUpper.toList = name.toList.map Char.toUpper :=
  String.toList_map

theorem isNameCharacter_of_mem {name : String}
    (hsmall : ∀ c ∈ name.toLower.toList, isNameCharacter c = true) :
    ∀ c ∈ name.toList, isNameCharacter c = true := by
  intro c hc
  refine isNameCharacter_of_toLower (hsmall _ ?_)
  rw [toList_toLower]
  exact List.mem_map_of_mem hc

/-- A letter has two cases. -/
theorem eq_or_eq_toUpper_of_toLower {small : Char} (hsmall : isNameCharacter small = true)
    (h : c.toLower = small) : c = small ∨ c = small.toUpper := by
  subst h
  exact isNameCharacter_all (fun c => c = c.toLower ∨ c = c.toLower.toUpper) (by decide)
    (isNameCharacter_of_toLower hsmall)

theorem smallLetter_eq_toLower (hc : isIdentifierCharacter c = true) :
    smallLetter c = c.toLower ∧ c ≠ 'Σ' ∧ c ≠ 'İ' :=
  isIdentifierCharacter_all (fun c => smallLetter c = c.toLower ∧ c ≠ 'Σ' ∧ c ≠ 'İ')
    (by decide +kernel) hc

/-- A capital sigma and a dotted capital I apart, each character is put into small letters for
    itself, wherever it stands. -/
theorem lowercaseAfter_plain (hcs : ∀ c ∈ cs, c ≠ 'Σ' ∧ c ≠ 'İ') (before rest : List Char) :
    lowercaseAfter before (cs ++ rest) =
      cs.map smallLetter ++ lowercaseAfter (cs.reverse ++ before) rest := by
  induction cs generalizing before with
  | nil => rfl
  | cons c cs ih =>
    obtain ⟨hsigma, hdotted⟩ := hcs c List.mem_cons_self
    have hrest := ih (fun c hc => hcs c (List.mem_cons_of_mem _ hc)) (c :: before)
    simp [lowercaseAfter, hsigma, hdotted, hrest]

theorem exists_lowercaseAfter_append (before first rest : List Char) :
    ∃ small, lowercaseAfter before (first ++ rest) =
      small ++ lowercaseAfter (first.reverse ++ before) rest := by
  induction first generalizing before with
  | nil => exact ⟨[], rfl⟩
  | cons c first ih =>
    obtain ⟨small, hsmall⟩ := ih (c :: before)
    rw [List.cons_append, lowercaseAfter, hsmall, List.reverse_cons, List.append_assoc,
      List.singleton_append]
    exact ⟨_, (List.append_assoc _ _ _).symm⟩

theorem toList_lowercase {name : String} (hname : ∀ c ∈ name.toList, c ≠ 'Σ' ∧ c ≠ 'İ') :
    (lowercase name).toList = name.toList.map smallLetter := by
  have hsmall := lowercaseAfter_plain hname [] []
  simp only [List.append_nil, lowercaseAfter] at hsmall
  rw [lowercase, String.toList_ofList, hsmall]

theorem lowercase_name {name : String} (hname : ∀ c ∈ name.toList, isIdentifierCharacter c = true) :
    lowercase name = name.toLower := by
  apply String.toList_inj.mp
  rw [toList_lowercase fun c hc => (smallLetter_eq_toLower (hname c hc)).2, toList_toLower]
  exact List.map_congr_left fun c hc => (smallLetter_eq_toLower (hname c hc)).1

/-! ### Parts of a text -/

theorem occursIn_iff_infix {part : List Char} : occursIn part cs = true ↔ part <:+: cs := by
  induction cs with
  | nil => simp [occursIn]
  | cons c cs ih =>
    rw [occursIn, Bool.or_eq_true, ih, List.isPrefixOf_iff_prefix, List.infix_cons_iff]

/-- A part of a text stays one in small letters. -/
theorem lowercase_infix {name : String} (hname : ∀ c ∈ name.toList, c ≠ 'Σ' ∧ c ≠ 'İ')
    (h : name.toList <:+: cs) : (lowercase name).toList <:+: lowercaseAfter [] cs := by
  obtain ⟨before, behind, rfl⟩ := h
  obtain ⟨small, hsmall⟩ := exists_lowercaseAfter_append [] before (name.toList ++ behind)
  rw [List.append_assoc, hsmall, lowercaseAfter_plain hname, toList_lowercase hname]
  exact ⟨small, _, List.append_assoc _ _ _⟩

/-! ### Identifiers -/

/-- A letter, digit or underscore comes from one character alone. -/
theorem isIdentifierCharacter_of_lowercaseAfter {before : List Char}
    (h : ∀ c ∈ lowercaseAfter before cs, isIdentifierCharacter c = true) :
    ∀ c ∈ cs, (c ≠ 'Σ' ∧ c ≠ 'İ') ∧ isIdentifierCharacter (smallLetter c) = true := by
  induction cs generalizing before with
  | nil => exact List.forall_mem_nil _
  | cons c cs ih =>
    rw [lowercaseAfter, List.forall_mem_append] at h
    refine List.forall_mem_cons.mpr ⟨?_, ih h.2⟩
    have hsmall := h.1
    split_ifs at hsmall with hsigma hfinal hdotted
    · exact absurd (hsmall 'ς' (by simp)) (by decide)
    · exact absurd (hsmall 'σ' (by simp)) (by decide)
    · exact absurd (hsmall '\u0307' (by simp)) (by decide)
    · exact ⟨⟨by simpa using hsigma, by simpa using hdotted⟩, hsmall _ (by simp)⟩

/-- A name that is an identifier but for the case is made of characters that are kept or have one
    small letter. -/
theorem smallLetter_of_lowercase_eq {name identifier : String}
    (hidentifier : ∀ c ∈ identifier.toList, isIdentifierCharacter c = true)
    (h : lowercase name = lowercase identifier) :
    ∀ c ∈ name.toList, (c ≠ 'Σ' ∧ c ≠ 'İ') ∧ isIdentifierCharacter (smallLetter c) = true := by
  have hlower {c : Char} (hc : isIdentifierCharacter c = true) :
      isIdentifierCharacter c.toLower = true :=
    isIdentifierCharacter_all (fun c => isIdentifierCharacter c.toLower = true) (by decide) hc
  have hsmall : lowercaseAfter [] name.toList = identifier.toList.map Char.toLower := by
    rw [← toList_toLower, ← lowercase_name hidentifier, ← h, lowercase, String.toList_ofList]
  have hletters : ∀ c ∈ lowercaseAfter [] name.toList, isIdentifierCharacter c = true := by
    rw [hsmall]
    exact List.forall_mem_map.mpr fun c hc => hlower (hidentifier c hc)
  exact isIdentifierCharacter_of_lowercaseAfter hletters

end DartModels.Text
