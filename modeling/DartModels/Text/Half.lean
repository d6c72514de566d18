import DartModels.Text.Quoted

namespace DartModels.Text

/-- The characters that stand for halves of surrogate pairs. A half that stands alone is no
    character, but JSON can spell it, and then a text keeps it like one. The stand-ins are a
    block of private use, in the order of the halves. A block suits the texts that have none of
    its characters themselves; so what holds for every block holds for all texts that leave
    one free. -/
class HalfBlock where
  first : Nat
  isPrivate : 0xf0000 ≤ first
  hasRoom : first + 0x800 ≤ 0x110000

instance : HalfBlock := ⟨0x10a000, by decide, by decide⟩

variable [HalfBlock]

/-- The character that stands for a half. -/
def ofHalf (unit : Nat) : Char :=
  Char.ofNat (HalfBlock.first + (unit - 0xd800))

/-- Whether a character stands for a half. -/
def isHalf (c : Char) : Bool :=
  HalfBlock.first ≤ c.toNat && c.toNat < HalfBlock.first + 0x800

/-- The half that a character stands for. -/
def toHalf (c : Char) : Nat :=
  0xd800 + (c.toNat - HalfBlock.first)

/-- Whether a text can be encoded: none of it is half of a character. -/
def isEncodable (text : String) : Bool :=
  !text.toList.any isHalf

/-- A text that can be encoded, with the code of each half in place of it. -/
def encodable (text : String) : String :=
  String.ofList <| text.toList.flatMap fun c =>
    if isHalf c then '\\' :: 'u' :: hexDigits 4 (toHalf c) else [c]

/-- A stand-in is in the block, and tells its half. -/
theorem isHalf_ofHalf {unit : Nat} (hlow : 0xd800 ≤ unit) (hhigh : unit ≤ 0xdfff) :
    isHalf (ofHalf unit) = true ∧ toHalf (ofHalf unit) = unit := by
  have hprivate := HalfBlock.isPrivate
  have hroom := HalfBlock.hasRoom
  have hvalid : (HalfBlock.first + (unit - 0xd800)).isValidChar := .inr ⟨by omega, by omega⟩
  have hcode : (ofHalf unit).toNat = HalfBlock.first + (unit - 0xd800) := by
    rw [ofHalf, Char.ofNat, dif_pos hvalid]
    rfl
  simp only [isHalf, toHalf, hcode, Bool.and_eq_true, decide_eq_true_eq]
  omega

/-- No character below the planes of private use stands for a half. -/
theorem isHalf_eq_false {c : Char} (h : c.toNat < 0xf0000) : isHalf c = false := by
  have hprivate := HalfBlock.isPrivate
  have hlow : ¬HalfBlock.first ≤ c.toNat := by omega
  simp [isHalf, hlow]

/-- A text of characters below the planes of private use can be encoded. -/
theorem isEncodable_of_plain {text : String}
    (h : (text.toList.all fun c => c.toNat < 0xf0000) = true) : isEncodable text = true := by
  simp only [List.all_eq_true, decide_eq_true_eq] at h
  simp only [isEncodable, Bool.not_eq_true', List.any_eq_false, Bool.not_eq_true]
  exact fun c hc => isHalf_eq_false (h c hc)

theorem isEncodable_append (front back : String) :
    isEncodable (front ++ back) = (isEncodable front && isEncodable back) := by
  simp [isEncodable]

theorem encodable_eq_self {text : String} (h : isEncodable text = true) :
    encodable text = text := by
  have hchars : ∀ c ∈ text.toList, isHalf c = false := by simpa [isEncodable] using h
  have hsame : ∀ cs : List Char, (∀ c ∈ cs, isHalf c = false) →
      (cs.flatMap fun c => if isHalf c then '\\' :: 'u' :: hexDigits 4 (toHalf c) else [c]) =
        cs := by
    intro cs hcs
    induction cs with
    | nil => rfl
    | cons c cs ih =>
      obtain ⟨hc, hcs⟩ := List.forall_mem_cons.mp hcs
      rw [List.flatMap_cons, ih hcs, hc]
      rfl
  rw [encodable, hsame _ hchars, String.ofList_toList]

end DartModels.Text
