import DartModels.Proofs.Text.Letters
import DartModels.Sql.Lexer
import Mathlib.Data.List.Basic
import Mathlib.Tactic.SplitIfs

namespace DartModels.Sql

variable {c : Char} {cs rest : List Char} {token : Token} {tokens : List Token}

/-- The tokens that characters are read as, whatever the bound on their number. -/
def Lexes (cs : List Char) (tokens : List Token) : Prop :=
  ∀ limit, cs.length ≤ limit →
    ∃ placed, readTokens limit false cs = some placed ∧ placed.map Placed.token = tokens

namespace Lexes

theorem nil : Lexes [] [] := by
  intro limit _
  cases limit with
  | zero => exact ⟨[], rfl, rfl⟩
  | succ limit => exact ⟨[], rfl, rfl⟩

theorem blank (hc : Text.isBlank c = true) (h : Lexes cs tokens) : Lexes (c :: cs) tokens := by
  intro limit hlimit
  obtain ⟨limit, rfl⟩ := Nat.exists_eq_add_one_of_ne_zero (Nat.ne_zero_of_lt hlimit)
  obtain ⟨placed, hread, htokens⟩ := h limit (Nat.le_of_succ_le_succ hlimit)
  exact ⟨placed, by simpa [readTokens, hc] using hread, htokens⟩

theorem blanks {gap : List Char} (hgap : ∀ c ∈ gap, Text.isBlank c = true)
    (h : Lexes cs tokens) : Lexes (gap ++ cs) tokens := by
  induction gap with
  | nil => exact h
  | cons c gap ih =>
    exact blank (hgap c List.mem_cons_self) (ih fun c hc => hgap c (List.mem_cons_of_mem _ hc))

/-- A token that marks no parameter has no effect on the tokens behind it. -/
theorem cons (hc : Text.isBlank c = false) (hparameter : token.marksParameter = false)
    (hread : readToken false (c :: cs) = some (token, rest))
    (hlength : rest.length ≤ cs.length) (h : Lexes rest tokens) :
    Lexes (c :: cs) (token :: tokens) := by
  intro limit hlimit
  obtain ⟨limit, rfl⟩ := Nat.exists_eq_add_one_of_ne_zero (Nat.ne_zero_of_lt hlimit)
  obtain ⟨placed, hrest, htokens⟩ :=
    h limit (Nat.le_trans hlength (Nat.le_of_succ_le_succ hlimit))
  refine ⟨⟨token, c :: cs, rest⟩ :: placed, ?_, by rw [List.map_cons, htokens]⟩
  simp [readTokens, hc, hread, hparameter, hrest]

end Lexes

/-- No long mark is found where none starts with the first character. -/
theorem longMark?_eq_none (h : ∀ mark ∈ longMarks, mark.toList.head?.any (· != c) = true) :
    longMark? (c :: cs) = none := by
  have hnone : ∀ mark ∈ longMarks, mark.toList.isPrefixOf (c :: cs) = false := by
    intro mark hmark
    have hhead := h mark hmark
    cases hlist : mark.toList with
    | nil => simp [hlist] at hhead
    | cons first more =>
      have hfirst : (first == c) = false := by simpa [hlist] using hhead
      simp only [List.isPrefixOf, hfirst, Bool.false_and]
  unfold longMark?
  generalize longMarks = marks at hnone
  induction marks with
  | nil => rfl
  | cons mark marks ih =>
    rw [List.foldl_cons, if_neg (by simp [hnone mark List.mem_cons_self])]
    exact ih fun mark hmark => hnone mark (List.mem_cons_of_mem _ hmark)

/-- The characters that start a comment, a quoted run or a text between dollar signs, as far
    as one character tells. -/
def specialStarts : List Char := ['-', '/', '\x7b', '\'', '"', '$']

/-- Any other character starts a number, a mark or a word. -/
theorem readToken_of_notMem (hc : c ∉ specialStarts) (hquote : rest.head? ≠ some '\'') :
    readToken false (c :: rest) =
      if c.isDigit then some (readNumber false c rest)
      else
        match longMark? (c :: rest) with
        | some mark => some (.mark mark, (c :: rest).drop mark.length)
        | none =>
          if continuesWord c then
            match compound? (c :: rest) with
            | some (keyword, rest) => some (.word keyword keyword, rest)
            | none => some (readWord false (c :: rest))
          else some (.mark (String.ofList [c]), rest) := by
  unfold readToken
  split
  case h_8 heq =>
    cases heq
    -- The look at the character behind the first one is for texts with a letter in front.
    split
    · simp at hquote
    · rfl
  all_goals simp_all [specialStarts]

/-- The marks that stand around and between arguments. -/
theorem readToken_mark (hc : c ∈ ['(', ')', ',']) (rest : List Char) :
    readToken false (c :: rest) = some (.mark (String.ofList [c]), rest) := by
  have hkind : c ∉ specialStarts ∧ c.isDigit = false ∧ continuesWord c = false ∧
      c.toUpper ∉ ['B', 'E', 'N', 'X'] ∧
      ∀ mark ∈ longMarks, mark.toList.head?.any (· != c) = true := by
    revert c
    decide
  obtain ⟨hstart, hdigit, hword, hletter, hmarks⟩ := hkind
  have hlong : longMark? (c :: rest) = none := longMark?_eq_none hmarks
  by_cases hquote : rest.head? = some '\''
  · obtain ⟨inside, rfl⟩ : ∃ inside, rest = '\'' :: inside := by
      cases rest <;> simp_all
    have hstart : c ≠ '-' ∧ c ≠ '/' ∧ c ≠ '\x7b' ∧ c ≠ '\'' ∧ c ≠ '"' ∧ c ≠ '$' := by
      simpa [specialStarts] using hstart
    have hletter : ¬ (c.toUpper = 'B' ∨ c.toUpper = 'E' ∨ c.toUpper = 'N' ∨ c.toUpper = 'X') := by
      simpa using hletter
    simp [readToken, hstart, hletter, hdigit, hword]
  · rw [readToken_of_notMem hstart hquote, hdigit, hlong, hword]
    simp

theorem longMark?_cast (rest : List Char) : longMark? (':' :: ':' :: rest) = some "::" := by
  rfl

theorem readToken_cast (rest : List Char) :
    readToken false (':' :: ':' :: rest) = some (.mark "::", rest) := by
  rw [readToken_of_notMem (by decide) (by simp), longMark?_cast]
  rfl

theorem Lexes.mark (hc : c ∈ ['(', ')', ',']) (h : Lexes rest tokens) :
    Lexes (c :: rest) (.mark (String.ofList [c]) :: tokens) := by
  have hplain : Text.isBlank c = false ∧
      (Token.mark (String.ofList [c])).marksParameter = false := by
    revert c
    decide
  exact .cons hplain.1 hplain.2 (readToken_mark hc rest) (Nat.le_refl _) h

theorem Lexes.marks (hc : c ∈ ['(', ')', ',']) (count : Nat) (h : Lexes rest tokens) :
    Lexes (List.replicate count c ++ rest)
      (List.replicate count (.mark (String.ofList [c])) ++ tokens) := by
  induction count with
  | zero => exact h
  | succ count ih =>
    rw [List.replicate_succ, List.replicate_succ, List.cons_append, List.cons_append]
    exact .mark hc ih

theorem Lexes.cast (h : Lexes rest tokens) : Lexes (':' :: ':' :: rest) (.mark "::" :: tokens) :=
  .cons (by decide) (by decide) (readToken_cast rest) (by simp) h

/-! ### Quoted runs -/

/-- Characters in which each quote is written twice. -/
def quotesDoubled (quote : Char) (cs : List Char) : List Char :=
  cs.flatMap fun c => if c = quote then [quote, quote] else [c]

theorem quotesDoubled_of_notMem {quote : Char} (hquote : quote ∉ cs) :
    quotesDoubled quote cs = cs := by
  induction cs with
  | nil => rfl
  | cons c cs ih =>
    simp only [List.mem_cons, not_or] at hquote
    rw [quotesDoubled, List.flatMap_cons, if_neg (Ne.symm hquote.1), ← quotesDoubled,
      ih hquote.2, List.singleton_append]

/-- A quoted run ends at the first quote that is written once. -/
theorem readQuoted_quotesDoubled {quote : Char} (cs : List Char)
    (hrest : rest.head? ≠ some quote) :
    readQuoted quote (quotesDoubled quote cs ++ quote :: rest) = some (cs, rest) := by
  induction cs with
  | nil =>
    cases rest with
    | nil => simp [quotesDoubled, readQuoted]
    | cons next rest => simp_all [quotesDoubled, readQuoted]
  | cons c cs ih =>
    rw [quotesDoubled, List.flatMap_cons, ← quotesDoubled, List.append_assoc]
    split_ifs with hc
    · subst hc
      simp [readQuoted, ih]
    · obtain ⟨next, more, hmore⟩ := List.exists_cons_of_ne_nil
        (l := quotesDoubled quote cs ++ quote :: rest) (by simp)
      rw [hmore] at ih ⊢
      simp [readQuoted, hc, ih]

theorem readToken_text (content : List Char) (hrest : rest.head? ≠ some '\'') :
    readToken false ('\'' :: (quotesDoubled '\'' content ++ '\'' :: rest)) =
      some (.text (String.ofList content), rest) := by
  simp [readToken, readQuoted_quotesDoubled content hrest]

theorem readToken_quoted {name : List Char} (hname : '"' ∉ name) (hrest : rest.head? ≠ some '"') :
    readToken false ('"' :: (name ++ '"' :: rest)) = some (.quoted (String.ofList name), rest) := by
  have hread := readQuoted_quotesDoubled name hrest
  rw [quotesDoubled_of_notMem hname] at hread
  simp [readToken, hread]

theorem Lexes.text (content : List Char) (hrest : rest.head? ≠ some '\'') (h : Lexes rest tokens) :
    Lexes ('\'' :: (quotesDoubled '\'' content ++ '\'' :: rest))
      (.text (String.ofList content) :: tokens) := by
  refine .cons (by decide) rfl (readToken_text content hrest) ?_ h
  rw [List.length_append, List.length_cons]
  omega

theorem Lexes.quoted {name : String} (hname : '"' ∉ name.toList) (hrest : rest.head? ≠ some '"')
    (h : Lexes rest tokens) :
    Lexes ('"' :: (name.toList ++ '"' :: rest)) (.quoted name :: tokens) := by
  have hread := readToken_quoted hname hrest
  rw [String.ofList_toList] at hread
  refine .cons (by decide) rfl hread ?_ h
  rw [List.length_append, List.length_cons]
  omega

/-! ### Words -/

/-- No keyword of more than one word is found where none starts with the first character. -/
theorem compound?_eq_none (h : ∀ word ∈ hyphenKeyword.toList :: compoundKeywords.map Prod.fst,
      word ≠ [] ∧ (capitalsOf c).isPrefixOf word = false) :
    compound? (c :: cs) = none := by
  have hafter (word : List Char)
      (hword : word ∈ hyphenKeyword.toList :: compoundKeywords.map Prod.fst) :
      afterWord word (c :: cs) = none := by
    obtain ⟨hne, hother⟩ := h word hword
    obtain ⟨first, more, rfl⟩ := List.exists_cons_of_ne_nil hne
    simp [afterWord, hother]
  rw [compound?, hafter _ List.mem_cons_self, List.findSome?_eq_none_iff]
  intro ⟨first, second⟩ hwords
  simp [hafter first (List.mem_cons_of_mem _ (List.mem_map_of_mem hwords))]

theorem isNameCharacter_spec (hc : Text.isNameCharacter c = true) :
    c.isDigit = false ∧ continuesWord c = true ∧ Text.isBlank c = false ∧ c ∉ specialStarts ∧
      c ≠ '\'' :=
  Text.isNameCharacter_all (fun c => c.isDigit = false ∧ continuesWord c = true ∧
    Text.isBlank c = false ∧ c ∉ specialStarts ∧ c ≠ '\'') (by decide +kernel) hc

/-- A word of letters and underscores that starts like no mark and no keyword of more than one
    word is read as a whole. -/
theorem readToken_word (hword : ∀ letter ∈ c :: cs, Text.isNameCharacter letter = true)
    (hmark : ∀ mark ∈ longMarks, mark.toList.head?.any (· != c) = true)
    (hcompound : compound? (c :: (cs ++ rest)) = none)
    (hrest : rest.head?.any continuesWord = false) (hquote : rest.head? ≠ some '\'') :
    readToken false (c :: (cs ++ rest)) = some (Token.ofWord (String.ofList (c :: cs)), rest) := by
  obtain ⟨hdigit, hcontinues, -, hstart, -⟩ :=
    isNameCharacter_spec (hword c List.mem_cons_self)
  have hletters : ∀ letter ∈ cs, continuesWord letter = true := fun letter hletter =>
    (isNameCharacter_spec (hword letter (List.mem_cons_of_mem _ hletter))).2.1
  have hsecond : (cs ++ rest).head? ≠ some '\'' := by
    cases cs with
    | nil => exact hquote
    | cons letter cs =>
      simpa using (isNameCharacter_spec (hword letter (by simp))).2.2.2.2
  have hstop : rest.takeWhile continuesWord = [] ∧ rest.dropWhile continuesWord = rest := by
    cases rest with
    | nil => simp
    | cons next rest => simp_all
  rw [readToken_of_notMem hstart hsecond, hdigit, longMark?_eq_none hmark, hcontinues, hcompound]
  simp [readWord, List.takeWhile_append_of_pos hletters, List.dropWhile_append_of_pos hletters,
    hstop]

end DartModels.Sql
