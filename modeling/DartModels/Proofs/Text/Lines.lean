import DartModels.Text.Half
import DartModels.Text.Joined

namespace DartModels.Text

/-- The lines of a text, without the line feeds between them. -/
def linesOf (text : String) : List (List Char) :=
  text.toList.splitOn '\n'

/-- A text is its first piece and the others, each behind the character at which it was split. -/
theorem eq_append_flatMap_of_splitOn {separator : Char} {cs first : List Char}
    {pieces : List (List Char)} (h : cs.splitOn separator = first :: pieces) :
    cs = first ++ pieces.flatMap (separator :: ·) := by
  have hjoined (first : List Char) (pieces : List (List Char)) :
      [separator].intercalate (first :: pieces) = first ++ pieces.flatMap (separator :: ·) := by
    induction pieces generalizing first with
    | nil => simp
    | cons second pieces ih => simp [List.intercalate_cons_cons, ih]
  have hcs : [separator].intercalate (cs.splitOn separator) = cs :=
    List.intercalate_splitOn separator
  rw [h, hjoined] at hcs
  exact hcs.symm

theorem linesOf_eq_singleton {text : String} (h : '\n' ∉ text.toList) :
    linesOf text = [text.toList] := by
  have hlines : (['\n'].intercalate [text.toList]).splitOn '\n' = [text.toList] :=
    List.splitOn_intercalate '\n' (by simpa using h) (by simp)
  simpa [linesOf] using hlines

/-- A line feed ends the lines in front of it. -/
theorem linesOf_append_lineFeed (front back : String) :
    linesOf (front ++ "\n" ++ back) = linesOf front ++ linesOf back := by
  have hsplit : (front.toList ++ '\n' :: back.toList).splitOnP (· == '\n') =
      front.toList.splitOnP (· == '\n') ++ back.toList.splitOnP (· == '\n') :=
    List.splitOnP_append_cons front.toList back.toList rfl
  simpa [linesOf, List.splitOn] using hsplit

theorem lines_cons_cons (first second : String) (rest : List String) :
    lines (first :: second :: rest) = first ++ "\n" ++ lines (second :: rest) :=
  rfl

theorem joined_eq_intercalate (separator : String) (texts : List String) :
    joined separator texts = separator.intercalate texts := by
  fun_induction joined separator texts with
  | case1 => exact String.intercalate_nil.symm
  | case2 text => exact String.intercalate_singleton.symm
  | case3 text rest hrest ih => rw [ih, String.intercalate_cons_of_ne_nil hrest]

theorem lines_eq_intercalate (texts : List String) : lines texts = "\n".intercalate texts :=
  joined_eq_intercalate "\n" texts

/-- Texts put below each other have the lines of each. -/
theorem linesOf_lines {texts : List String} (h : texts ≠ []) :
    linesOf (lines texts) = texts.flatMap linesOf := by
  induction texts with
  | nil => exact absurd rfl h
  | cons first rest ih =>
    cases rest with
    | nil => simp [lines, joined]
    | cons second rest =>
      rw [lines_cons_cons, linesOf_append_lineFeed, ih (List.cons_ne_nil _ _)]
      rfl

theorem mem_intercalate_of_mem {separator part : List Char} {parts : List (List Char)} {c : Char}
    (hpart : part ∈ parts) (hc : c ∈ part) : c ∈ separator.intercalate parts := by
  induction parts with
  | nil => cases hpart
  | cons first rest ih =>
    cases rest with
    | nil => simpa [List.mem_singleton.mp hpart] using hc
    | cons second rest =>
      rw [List.intercalate_cons_cons]
      rcases List.mem_cons.mp hpart with rfl | hpart
      · simp [hc]
      · simp [ih hpart]

/-- The characters of a line are characters of the text. -/
theorem mem_of_mem_linesOf {text : String} {line : List Char} (hline : line ∈ linesOf text)
    {c : Char} (hc : c ∈ line) : c ∈ text.toList := by
  have hjoined : ['\n'].intercalate (linesOf text) = text.toList := List.intercalate_splitOn '\n'
  rw [← hjoined]
  exact mem_intercalate_of_mem hline hc

theorem mem_joined {separator : String} {texts : List String} {c : Char}
    (hc : c ∈ (joined separator texts).toList) :
    c ∈ separator.toList ∨ ∃ text ∈ texts, c ∈ text.toList := by
  fun_induction joined separator texts with
  | case1 => simp at hc
  | case2 text => exact .inr ⟨text, List.mem_singleton_self text, hc⟩
  | case3 text rest _ ih =>
    simp only [String.toList_append, List.mem_append] at hc
    obtain (hc | hc) | hc := hc
    · exact .inr ⟨text, List.mem_cons_self, hc⟩
    · exact .inl hc
    · exact (ih hc).imp_right fun ⟨other, hother, hc⟩ => ⟨other, List.mem_cons_of_mem _ hother, hc⟩

theorem isEncodable_joined [HalfBlock] {separator : String}
    (hseparator : isEncodable separator = true) (texts : List String) :
    isEncodable (joined separator texts) = texts.all isEncodable := by
  fun_induction joined separator texts with
  | case1 => rfl
  | case2 text => simp
  | case3 text rest _ ih => simp [isEncodable_append, hseparator, ih]

end DartModels.Text
