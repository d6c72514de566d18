import DartModels.Json.Reader
import DartModels.Json.Writer
import Mathlib.Data.List.Basic
import Mathlib.Tactic.SplitIfs

namespace DartModels.Text

/-- Digits are added at the right. -/
theorem hexDigits_succ (width n : Nat) (hwidth : width ≠ 0) :
    hexDigits (width + 1) n = hexDigits width (n / 16) ++ [Nat.digitChar (n % 16)] := by
  by_cases hn : n < 16
  · obtain ⟨more, rfl⟩ := Nat.exists_eq_succ_of_ne_zero hwidth
    simp [hexDigits, Nat.div_eq_of_lt hn, Nat.mod_eq_of_lt hn, Nat.toDigits_of_lt_base hn,
      List.replicate_succ']
  · simp [hexDigits, Nat.toDigits_of_base_le (b := 16) (by decide) (Nat.not_lt.mp hn)]

theorem hexDigits_one {n : Nat} (hn : n < 16) : hexDigits 1 n = [Nat.digitChar n] := by
  simp [hexDigits, Nat.toDigits_of_lt_base hn]

end DartModels.Text

namespace DartModels.Json

theorem hexDigit?_digitChar : ∀ n < 16, hexDigit? (Nat.digitChar n) = some n := by
  decide

/-- The four digits of a code unit tell the unit. -/
theorem codeUnit?_hexDigits {unit : Nat} (hunit : unit < 0x10000) :
    ∃ a b c d, Text.hexDigits 4 unit = [a, b, c, d] ∧ codeUnit? a b c d = some unit := by
  have hdigit (n : Nat) : hexDigit? (Nat.digitChar (n % 16)) = some (n % 16) :=
    hexDigit?_digitChar _ (Nat.mod_lt _ (by decide))
  have hfirst : unit / 16 / 16 / 16 < 16 := by omega
  refine ⟨(unit / 16 / 16 / 16).digitChar, (unit / 16 / 16 % 16).digitChar,
    (unit / 16 % 16).digitChar, (unit % 16).digitChar, ?_, ?_⟩
  · rw [Text.hexDigits_succ 3 _ (by decide), Text.hexDigits_succ 2 _ (by decide),
      Text.hexDigits_succ 1 _ (by decide), Text.hexDigits_one hfirst]
    rfl
  · simp only [codeUnit?, hexDigit?_digitChar _ hfirst, hdigit, Option.some.injEq]
    omega

/-- No character is half of another one. -/
theorem toNat_range (c : Char) :
    c.toNat < 0xd800 ∨ 0xdfff < c.toNat ∧ c.toNat < 0x110000 := by
  have hvalid := c.valid
  simp only [UInt32.isValidChar, Nat.isValidChar] at hvalid
  exact hvalid

variable [Text.HalfBlock]

/-- A unit that is written as a code is read, with what follows it, as the reader takes
    the unit. -/
theorem readText_unitEscape {unit : Nat} (hunit : unit < 0x10000)
    (hhigh : isHighSurrogate unit = false) {rest : List Char} (hrest : rest ≠ []) :
    readText (unitEscape unit ++ rest) = prepend (ofCodeUnit unit) (readText rest) := by
  obtain ⟨a, b, c, d, hdigits, hcode⟩ := codeUnit?_hexDigits hunit
  obtain ⟨next, rest, rfl⟩ := List.exists_cons_of_ne_nil hrest
  simp [unitEscape, hdigits, readText, hcode, hhigh]

/-- A second half that stands alone is read as the character that stands for it, which tells
    the half. -/
theorem readText_half {unit : Nat} (hlow : isLowSurrogate unit = true) {rest : List Char}
    (hrest : rest ≠ []) :
    ∃ half, readText (unitEscape unit ++ rest) = prepend half (readText rest) ∧
      Text.isHalf half = true ∧ Text.toHalf half = unit := by
  have hrange : 0xdc00 ≤ unit ∧ unit ≤ 0xdfff := by simpa [isLowSurrogate] using hlow
  have hhigh : isHighSurrogate unit = false := by simp [isHighSurrogate]; omega
  have hstandIn : ofCodeUnit unit = Text.ofHalf unit := by simp [ofCodeUnit, hlow]
  refine ⟨_, readText_unitEscape (by omega) hhigh hrest, ?_⟩
  rw [hstandIn]
  exact Text.isHalf_ofHalf (by omega) hrange.2

/-- Two halves are read as the character that they make. -/
theorem readText_surrogates {high low : Nat} (hhigh : isHighSurrogate high = true)
    (hlow : isLowSurrogate low = true) {rest : List Char} (hrest : rest ≠ []) :
    readText (unitEscape high ++ (unitEscape low ++ rest)) =
      prepend (joinSurrogates high low) (readText rest) := by
  have hhigh' : high < 0x10000 := by simp [isHighSurrogate] at hhigh; omega
  have hlow' : low < 0x10000 := by simp [isLowSurrogate] at hlow; omega
  obtain ⟨a, b, c, d, hdigits, hcode⟩ := codeUnit?_hexDigits hhigh'
  obtain ⟨a', b', c', d', hdigits', hcode'⟩ := codeUnit?_hexDigits hlow'
  obtain ⟨next, rest, rfl⟩ := List.exists_cons_of_ne_nil hrest
  simp [unitEscape, hdigits, hdigits', readText, followingUnit, hcode, hcode', hhigh, hlow]

/-- A character that needs no escape is read as it stands. -/
theorem readText_plain {c : Char} (hprintable : 0x20 ≤ c.toNat) (hquote : c ≠ '"')
    (hbackslash : c ≠ '\\') (rest : List Char) :
    readText (c :: rest) = prepend c (readText rest) := by
  have hcontrol : ¬ c.toNat < 0x20 := Nat.not_lt.mpr hprintable
  simp [readText, hcontrol, hbackslash]

/-- A character in the basic plane is a unit by itself. -/
theorem ofCodeUnit_toNat (c : Char) :
    isHighSurrogate c.toNat = false ∧ ofCodeUnit c.toNat = c := by
  have hrange := toNat_range c
  have hhigh : isHighSurrogate c.toNat = false := by simp [isHighSurrogate]; omega
  have hlow : isLowSurrogate c.toNat = false := by simp [isLowSurrogate]; omega
  exact ⟨hhigh, by simp [ofCodeUnit, hhigh, hlow]⟩

theorem readText_escaped (c : Char) {rest : List Char} (hrest : rest ≠ []) :
    readText (escaped c ++ rest) = prepend c (readText rest) := by
  dsimp only [escaped]
  split_ifs with hspecial hprintable hnewline hreturn htab hfeed hback hplane
  · obtain rfl | rfl : c = '"' ∨ c = '\\' := by simpa using hspecial
    · simp [readText, simpleEscape?]
    · simp [readText, simpleEscape?]
  · have hspecial : c ≠ '"' ∧ c ≠ '\\' := by simpa using hspecial
    have hprintable : 0x20 ≤ c.toNat ∧ c.toNat ≤ 0x7e := by simpa using hprintable
    exact readText_plain hprintable.1 hspecial.1 hspecial.2 rest
  · simp_all [readText, simpleEscape?]
  · simp_all [readText, simpleEscape?]
  · simp_all [readText, simpleEscape?]
  · simp_all [readText, simpleEscape?]
  · simp_all [readText, simpleEscape?]
  · obtain ⟨hhigh, hunit⟩ := ofCodeUnit_toNat c
    rw [readText_unitEscape hplane hhigh hrest, hunit]
  · have hrange := toNat_range c
    rw [List.append_assoc, readText_surrogates (by simp [isHighSurrogate]; omega)
      (by simp [isLowSurrogate]; omega) hrest]
    have hcode : 0x10000 + (0xd800 + (c.toNat - 0x10000) / 0x400 - 0xd800) * 0x400 +
        (0xdc00 + (c.toNat - 0x10000) % 0x400 - 0xdc00) = c.toNat := by omega
    rw [joinSurrogates, hcode, Char.ofNat_toNat]

/-- A written text is read up to its closing quote. -/
theorem readText_flatMap_escaped (cs rest : List Char) :
    readText (cs.flatMap escaped ++ '"' :: rest) = .ok (cs, rest) := by
  induction cs with
  | nil => simp [readText]
  | cons c cs ih =>
    rw [List.flatMap_cons, List.append_assoc, readText_escaped c (by simp), ih]
    rfl

/-- A written text is read as a part of a value. -/
theorem readSpelling_writeText (text : String) (rest : List Char) :
    readSpelling (text.toList.flatMap escaped ++ '"' :: rest) = .ok (text, rest) := by
  simp [readSpelling, readText_flatMap_escaped, Except.map, Except.mapError]

end DartModels.Json
