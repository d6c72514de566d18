import DartModels.Text.Blank
import DartModels.Text.Word
import Mathlib.Data.List.Basic
import Mathlib.Data.List.TakeWhile

namespace DartModels.Text

/-- The codes of the blanks. -/
def blankCodes : List Nat :=
  List.range' 9 5 ++ List.range' 28 5 ++ List.range' 0x2000 11 ++
    [0x85, 0xa0, 0x1680, 0x2028, 0x2029, 0x202f, 0x205f, 0x3000]

theorem toNat_mem_blankCodes {c : Char} (hc : isBlank c = true) : c.toNat ∈ blankCodes := by
  simp only [isBlank, Bool.or_eq_true, Bool.and_eq_true, decide_eq_true_eq, beq_iff_eq] at hc
  simp only [blankCodes, List.mem_append, List.mem_range'_1, List.mem_cons, List.not_mem_nil]
  omega

/-- A blank goes on no word. -/
theorem isWordCharacter_of_isBlank {c : Char} (hc : isBlank c = true) :
    isWordCharacter c = false := by
  have hcodes : ∀ code ∈ blankCodes, isWordCharacter (Char.ofNat code) = false := by
    decide +kernel
  simpa using hcodes c.toNat (toNat_mem_blankCodes hc)

theorem isDigit_of_isBlank {c : Char} (hc : isBlank c = true) : c.isDigit = false := by
  have hcodes : ∀ code ∈ blankCodes, (Char.ofNat code).isDigit = false := by
    decide +kernel
  simpa using hcodes c.toNat (toNat_mem_blankCodes hc)

theorem dropWhile_isBlank {gap cs : List Char} (hgap : ∀ c ∈ gap, isBlank c = true)
    (hcs : ∀ c ∈ cs.head?, isBlank c = false) : (gap ++ cs).dropWhile isBlank = cs := by
  rw [List.dropWhile_append_of_pos hgap]
  cases cs with
  | nil => rfl
  | cons c cs => simp [hcs c rfl]

/-- Blanks at both ends are taken off, and nothing else is. -/
theorem trimBlanks_append {before cs behind : List Char} (hbefore : ∀ c ∈ before, isBlank c = true)
    (hbehind : ∀ c ∈ behind, isBlank c = true) (hne : cs ≠ [])
    (hfirst : ∀ c ∈ cs.head?, isBlank c = false) (hlast : ∀ c ∈ cs.getLast?, isBlank c = false) :
    trimBlanks (before ++ (cs ++ behind)) = cs := by
  have hstart : (before ++ (cs ++ behind)).dropWhile isBlank = cs ++ behind :=
    dropWhile_isBlank hbefore (by rwa [List.head?_append_of_ne_nil _ hne])
  have hend : (behind.reverse ++ cs.reverse).dropWhile isBlank = cs.reverse :=
    dropWhile_isBlank (by simpa using hbehind) (by rwa [List.head?_reverse])
  rw [trimBlanks, hstart, List.reverse_append, hend, List.reverse_reverse]

/-- A text with blanks in front of it and behind it. -/
def IsPadded (inside cs : List Char) : Prop :=
  ∃ before behind, (∀ c ∈ before, isBlank c = true) ∧ (∀ c ∈ behind, isBlank c = true) ∧
    cs = before ++ (inside ++ behind)

theorem isPadded_trimBlanks (cs : List Char) : IsPadded (trimBlanks cs) cs := by
  refine ⟨cs.takeWhile isBlank, ((cs.dropWhile isBlank).reverse.takeWhile isBlank).reverse,
    fun c hc => List.mem_takeWhile_imp hc,
    fun c hc => List.mem_takeWhile_imp (List.mem_reverse.mp hc), ?_⟩
  rw [trimBlanks, ← List.reverse_append, List.takeWhile_append_dropWhile, List.reverse_reverse,
    List.takeWhile_append_dropWhile]

end DartModels.Text
