import DartModels.Proofs.Text.Lines
import DartModels.Text.Unstyled
import DartModels.Proofs.Text.Letters
import Mathlib.Data.List.TakeWhile

namespace DartModels.Text

/-- What stands behind an escape character is the rest of a sequence that styles text: a bracket,
    parameters and a letter. -/
def EndsStyle (behind : List Char) : Prop :=
  ∃ parameters letter rest, behind = '[' :: (parameters ++ letter :: rest) ∧
    (∀ c ∈ parameters, isStyleParameter c = true) ∧ letter.isAlpha = true

/-- A sequence that styles text on a terminal stands somewhere in a text. -/
def HasStyle (text : String) : Prop :=
  ∃ before behind, text.toList = before ++ styleEscape :: behind ∧ EndsStyle behind

theorem EndsStyle.append {behind : List Char} (h : EndsStyle behind) (more : List Char) :
    EndsStyle (behind ++ more) := by
  obtain ⟨parameters, letter, rest, rfl, hparameters, hletter⟩ := h
  exact ⟨parameters, letter, rest ++ more, by simp, hparameters, hletter⟩

theorem HasStyle.append {text : String} (h : HasStyle text) (front back : String) :
    HasStyle (front ++ text ++ back) := by
  obtain ⟨before, behind, htext, hends⟩ := h
  exact ⟨front.toList ++ before, behind ++ back.toList, by simp [htext], hends.append _⟩

theorem HasStyle.joined {separator text : String} {texts : List String} (h : HasStyle text)
    (htext : text ∈ texts) : HasStyle (joined separator texts) := by
  fun_induction Text.joined separator texts with
  | case1 => cases htext
  | case2 only => rwa [List.mem_singleton.mp htext] at h
  | case3 first rest _ ih =>
    rcases List.mem_cons.mp htext with rfl | htext
    · simpa [String.append_assoc] using h.append "" (separator ++ Text.joined separator rest)
    · simpa using (ih htext).append (first ++ separator) ""

theorem isStyleParameter_of_isAlpha {c : Char} (hc : c.isAlpha = true) :
    isStyleParameter c = false :=
  isNameCharacter_all (fun c => c.isAlpha = true → isStyleParameter c = false) (by decide)
    (by simp [isNameCharacter, hc]) hc

/-- A sequence is left out. -/
theorem length_afterEscape_of_endsStyle {piece : List Char} (h : EndsStyle piece) :
    (afterEscape piece).length < piece.length := by
  obtain ⟨parameters, letter, rest, rfl, hparameters, hletter⟩ := h
  have hdrop : (parameters ++ letter :: rest).dropWhile isStyleParameter = letter :: rest := by
    rw [List.dropWhile_append_of_pos hparameters, List.dropWhile_cons_of_neg]
    simp [isStyleParameter_of_isAlpha hletter]
  simp only [afterEscape, hdrop, hletter, if_true, List.length_cons, List.length_append]
  omega

/-- An escape character that starts no sequence is kept, with all that stands behind it. -/
theorem afterEscape_of_not_endsStyle {piece : List Char} (h : ¬ EndsStyle piece) :
    afterEscape piece = styleEscape :: piece := by
  unfold afterEscape
  split
  · next rest =>
    split
    · rfl
    · next c behind hdrop =>
      split
      · next hletter =>
        have hrest := List.takeWhile_append_dropWhile (p := isStyleParameter) (l := rest)
        rw [hdrop] at hrest
        exact absurd ⟨rest.takeWhile isStyleParameter, c, behind, by rw [hrest],
          fun c hc => List.mem_takeWhile_imp hc, hletter⟩ h
      · rfl
  · rfl

theorem length_flatMap_afterEscape_le (pieces : List (List Char)) :
    (pieces.flatMap afterEscape).length ≤ (pieces.flatMap (styleEscape :: ·)).length := by
  induction pieces with
  | nil => exact Nat.le_refl 0
  | cons piece pieces ih =>
    have hpiece : (afterEscape piece).length ≤ (styleEscape :: piece).length := by
      by_cases h : EndsStyle piece
      · exact Nat.le_succ_of_le (Nat.le_of_lt (length_afterEscape_of_endsStyle h))
      · rw [afterEscape_of_not_endsStyle h]
    rw [List.flatMap_cons, List.flatMap_cons, List.length_append, List.length_append]
    exact Nat.add_le_add hpiece ih

/-- The first piece goes on up to the first separator. -/
theorem splitOn_append_of_notMem {separator : Char} {front : List Char}
    (hfront : separator ∉ front) (cs : List Char) :
    (front ++ cs).splitOn separator = (cs.splitOn separator).modifyHead (front ++ ·) := by
  induction front with
  | nil => exact (congrFun List.modifyHead_id (cs.splitOn separator)).symm
  | cons c front ih =>
    rw [List.mem_cons, not_or] at hfront
    have hne : (c == separator) = false := by simpa using Ne.symm hfront.1
    rw [List.splitOn] at ih ⊢
    rw [List.cons_append, List.splitOnP_cons_eq_if_modifyHead, hne, ih hfront.2]
    simp [List.splitOn, Function.comp_def]

/-- A text has a sequence in it if and only if one of its pieces goes on with the rest of one. -/
theorem hasStyle_iff_exists_piece {text : String} {first : List Char} {pieces : List (List Char)}
    (h : text.toList.splitOn styleEscape = first :: pieces) :
    HasStyle text ↔ ∃ piece ∈ pieces, EndsStyle piece := by
  constructor
  · rintro ⟨before, behind, htext, parameters, letter, rest, rfl, hparameters, hletter⟩
    have hsplit : text.toList.splitOn styleEscape =
        before.splitOn styleEscape ++
          ('[' :: (parameters ++ letter :: rest)).splitOn styleEscape := by
      rw [htext]
      exact List.splitOnP_append_cons before _ (beq_self_eq_true styleEscape)
    have hplain : styleEscape ∉ '[' :: (parameters ++ [letter]) := by
      simp only [List.mem_cons, List.mem_append, List.not_mem_nil, or_false, not_or]
      refine ⟨by decide, fun hmem => ?_, fun heq => ?_⟩
      · exact absurd (hparameters _ hmem) (by decide)
      · rw [← heq] at hletter
        exact absurd hletter (by decide)
    obtain ⟨last, others, hrest⟩ :=
      List.exists_cons_of_ne_nil (List.splitOn_ne_nil styleEscape rest)
    have hbehind : ('[' :: (parameters ++ letter :: rest)).splitOn styleEscape =
        ('[' :: (parameters ++ letter :: last)) :: others := by
      have hpieces := splitOn_append_of_notMem hplain rest
      rw [hrest] at hpieces
      simpa using hpieces
    obtain ⟨start, middle, hbefore⟩ :=
      List.exists_cons_of_ne_nil (List.splitOn_ne_nil styleEscape before)
    rw [h, hbefore, hbehind, List.cons_append] at hsplit
    refine ⟨'[' :: (parameters ++ letter :: last), ?_, parameters, letter, last, rfl, hparameters,
      hletter⟩
    rw [(List.cons.inj hsplit).2]
    simp
  · rintro ⟨piece, hpiece, hends⟩
    obtain ⟨front, back, rfl⟩ := List.append_of_mem hpiece
    refine ⟨first ++ front.flatMap (styleEscape :: ·), piece ++ back.flatMap (styleEscape :: ·), ?_,
      hends.append _⟩
    rw [eq_append_flatMap_of_splitOn h]
    simp

/-- Taking styles off changes a text if and only if a sequence that styles stands in it. -/
theorem unstyled_eq_self_iff {text : String} : unstyled text = text ↔ ¬ HasStyle text := by
  obtain ⟨first, pieces, hsplit⟩ :=
    List.exists_cons_of_ne_nil (List.splitOn_ne_nil styleEscape text.toList)
  have hunstyled : (unstyled text).toList = first ++ pieces.flatMap afterEscape := by
    rw [unstyled, hsplit, String.toList_ofList]
  have htext := eq_append_flatMap_of_splitOn hsplit
  rw [hasStyle_iff_exists_piece hsplit, ← String.toList_inj, hunstyled]
  constructor
  · rintro hsame ⟨piece, hpiece, hends⟩
    rw [htext, List.append_cancel_left_eq] at hsame
    obtain ⟨front, back, rfl⟩ := List.append_of_mem hpiece
    have hlength := congrArg List.length hsame
    have hfront := length_flatMap_afterEscape_le front
    have hback := length_flatMap_afterEscape_le back
    have hshorter := length_afterEscape_of_endsStyle hends
    simp only [List.flatMap_append, List.flatMap_cons, List.length_append, List.length_cons]
      at hlength
    omega
  · intro hnone
    rw [htext, List.append_cancel_left_eq]
    exact List.flatMap_congr fun piece hpiece =>
      afterEscape_of_not_endsStyle fun hends => hnone ⟨piece, hpiece, hends⟩

end DartModels.Text
