import DartModels.Dart.Literal
import Mathlib.Data.List.Basic

namespace DartModels.Dart

/-- Reads a literal behind its opening quote: the characters that it stands for and what is left
    behind its closing quote. An unescaped dollar sign, which would start an expression, and a line
    feed are no part of one. -/
def readCharacters : List Char → Option (List Char × List Char)
  | [] | '$' :: _ | '\n' :: _ => none
  | '\'' :: rest => some ([], rest)
  | '\\' :: '\\' :: rest => (readCharacters rest).map (Prod.map ('\\' :: ·) id)
  | '\\' :: '\'' :: rest => (readCharacters rest).map (Prod.map ('\'' :: ·) id)
  | '\\' :: '$' :: rest => (readCharacters rest).map (Prod.map ('$' :: ·) id)
  | '\\' :: 'n' :: rest => (readCharacters rest).map (Prod.map ('\n' :: ·) id)
  | c :: rest => (readCharacters rest).map (Prod.map (c :: ·) id)

/-- Reads a literal: its text and what stands behind it. -/
def readLiteral : List Char → Option (String × List Char)
  | '\'' :: rest => (readCharacters rest).map (Prod.map String.ofList id)
  | _ => none

/-- The text of what is a literal and nothing besides. -/
def literalValue? (cs : List Char) : Option String :=
  match readLiteral cs with
  | some (value, []) => some value
  | _ => none

/-- Each character is read back from its spelling. -/
theorem readCharacters_escape (c : Char) (rest : List Char) :
    readCharacters (escape c ++ rest) = (readCharacters rest).map (Prod.map (c :: ·) id) := by
  by_cases hbackslash : c = '\\'
  · subst hbackslash
    rfl
  by_cases hquote : c = '\''
  · subst hquote
    rfl
  by_cases hdollar : c = '$'
  · subst hdollar
    rfl
  by_cases hfeed : c = '\n'
  · subst hfeed
    rfl
  · simp [escape, hbackslash, hquote, hdollar, hfeed, readCharacters]

theorem readCharacters_flatMap_escape (cs rest : List Char) :
    readCharacters (cs.flatMap escape ++ '\'' :: rest) = some (cs, rest) := by
  induction cs with
  | nil => rfl
  | cons c cs ih =>
    rw [List.flatMap_cons, List.append_assoc, readCharacters_escape, ih]
    rfl

/-- A text is read back from its literal, whatever stands behind. -/
theorem readLiteral_literal (value : String) (rest : List Char) :
    readLiteral ((literal value).toList ++ rest) = some (value, rest) := by
  rw [literal, String.toList_ofList, List.cons_append, List.append_assoc, List.singleton_append,
    readLiteral, readCharacters_flatMap_escape]
  simp

theorem literalValue?_literal (value : String) :
    literalValue? (literal value).toList = some value := by
  have hread := readLiteral_literal value []
  rw [List.append_nil] at hread
  rw [literalValue?, hread]

/-- Characters with some others in place of each one of a kind. -/
def replaced (old : Char) (new cs : List Char) : List Char :=
  cs.flatMap fun c => if c = old then new else [c]

/-- The escapes are those of four replacements, one after the other. Backslashes have to be first,
    for the others put in more of them. -/
theorem flatMap_escape_eq_replaced (cs : List Char) :
    cs.flatMap escape =
      replaced '\n' ['\\', 'n'] (replaced '$' ['\\', '$']
        (replaced '\'' ['\\', '\''] (replaced '\\' ['\\', '\\'] cs))) := by
  simp only [replaced, List.flatMap_assoc]
  refine List.flatMap_congr fun c _ => ?_
  by_cases hbackslash : c = '\\'
  · subst hbackslash
    rfl
  by_cases hquote : c = '\''
  · subst hquote
    rfl
  by_cases hdollar : c = '$'
  · subst hdollar
    rfl
  by_cases hfeed : c = '\n'
  · subst hfeed
    rfl
  · simp [escape, hbackslash, hquote, hdollar, hfeed]

/-- What stands behind a literal does not change how it is read. -/
theorem readCharacters_append {cs value left : List Char}
    (h : readCharacters cs = some (value, left)) (rest : List Char) :
    readCharacters (cs ++ rest) = some (value, left ++ rest) := by
  have hstep {cs : List Char} (c : Char)
      (ih : ∀ {value left}, readCharacters cs = some (value, left) →
        readCharacters (cs ++ rest) = some (value, left ++ rest)) {value left : List Char}
      (h : (readCharacters cs).map (Prod.map (c :: ·) id) = some (value, left)) :
      (readCharacters (cs ++ rest)).map (Prod.map (c :: ·) id) = some (value, left ++ rest) := by
    obtain ⟨⟨inner, behind⟩, hread, heq⟩ := Option.map_eq_some_iff.mp h
    cases heq
    rw [ih hread]
    rfl
  fun_induction readCharacters cs generalizing value left with
  | case1 | case2 | case3 => cases h
  | case4 cs =>
    cases h
    rfl
  | case5 cs ih => exact hstep '\\' ih h
  | case6 cs ih => exact hstep '\'' ih h
  | case7 cs ih => exact hstep '$' ih h
  | case8 cs ih => exact hstep '\n' ih h
  | case9 c cs hdollar hfeed hquote hbackslash hescapedQuote hescapedDollar hescapedFeed ih =>
    -- A single backslash at the end would be an escape with the text behind it, but it reads as
    -- nothing, so there is a next character.
    cases cs with
    | nil => cases h
    | cons next cs =>
      have hplain {other : Char}
          (hother : ∀ behind, c = '\\' → next :: cs = other :: behind → False)
          (behind : List Char) (hc : c = '\\') (heq : next :: (cs ++ rest) = other :: behind) :
          False :=
        hother cs hc (by rw [(List.cons.inj heq).1])
      rw [List.cons_append, List.cons_append, readCharacters]
      · exact hstep c ih h
      · exact hdollar
      · exact hfeed
      · exact hquote
      · exact hplain hbackslash
      · exact hplain hescapedQuote
      · exact hplain hescapedDollar
      · exact hplain hescapedFeed

theorem readLiteral_append {cs left : List Char} {value : String}
    (h : readLiteral cs = some (value, left)) (rest : List Char) :
    readLiteral (cs ++ rest) = some (value, left ++ rest) := by
  unfold readLiteral at h
  split at h
  · next inner =>
    obtain ⟨⟨chars, behind⟩, hread, heq⟩ := Option.map_eq_some_iff.mp h
    cases heq
    rw [List.cons_append, readLiteral, readCharacters_append hread]
    rfl
  · cases h

/-- What ends before a literal does is no literal. -/
theorem readLiteral_eq_none_of_append {value : String} {front behind : List Char}
    (h : (literal value).toList = front ++ behind) (hbehind : behind ≠ []) :
    readLiteral front = none := by
  cases hread : readLiteral front with
  | none => rfl
  | some result =>
    obtain ⟨other, left⟩ := result
    have hwhole := readLiteral_literal value []
    rw [List.append_nil, h, readLiteral_append hread] at hwhole
    obtain ⟨-, hempty⟩ : other = value ∧ left ++ behind = [] := by simpa using hwhole
    exact absurd (List.append_eq_nil_iff.mp hempty).2 hbehind

/-- No literal has a line feed in it. -/
theorem lineFeed_notMem_literal (value : String) : '\n' ∉ (literal value).toList := by
  have hescape (c : Char) : '\n' ∉ escape c := by
    unfold escape
    split
    · next hspecial => rcases hspecial with rfl | rfl | rfl <;> decide
    · split
      · decide
      · next hfeed => simpa using fun h => hfeed h.symm
  simp [literal, hescape]

/-- A literal is its text with backslashes, quotes, dollar signs and line feeds replaced in turn,
    between two quotes. Whatever stands behind it, reading it goes on to the closing quote and gives
    the text, so no two texts have the same literal, and nothing in a text ends its literal early
    or starts an expression. -/
theorem literal_faithful (value : String) :
    (literal value).toList = '\'' :: (replaced '\n' ['\\', 'n'] (replaced '$' ['\\', '$']
      (replaced '\'' ['\\', '\''] (replaced '\\' ['\\', '\\'] value.toList))) ++ ['\'']) ∧
    (∀ rest, readLiteral ((literal value).toList ++ rest) = some (value, rest)) ∧
    (∀ other, literal value = literal other ↔ value = other) ∧
    ∀ length, readLiteral ((literal value).toList.dropLast.take length) = none := by
  refine ⟨?_, readLiteral_literal value, fun other => ⟨fun h => ?_, congrArg literal⟩,
    fun length => ?_⟩
  · rw [literal, String.toList_ofList, flatMap_escape_eq_replaced]
  · have hother := literalValue?_literal other
    rw [← h, literalValue?_literal] at hother
    exact Option.some.inj hother
  · have hlast : (literal value).toList = ('\'' :: value.toList.flatMap escape) ++ ['\''] := by
      rw [literal, String.toList_ofList, List.cons_append]
    have hsplit : (literal value).toList = (literal value).toList.dropLast.take length ++
        ((literal value).toList.dropLast.drop length ++ ['\'']) := by
      rw [← List.append_assoc, List.take_append_drop, hlast, List.dropLast_concat]
    exact readLiteral_eq_none_of_append hsplit (by simp)

end DartModels.Dart
