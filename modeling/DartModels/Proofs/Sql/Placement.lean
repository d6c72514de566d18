import DartModels.Proofs.Sql.Lexing
import DartModels.Proofs.Sql.Soundness
import Mathlib.Data.List.Infix

namespace DartModels.Sql

variable {c : Char} {cs rest : List Char}

/-! ### What is left of a text -/

/-- A quoted run is its inside with each quote written twice. -/
theorem eq_of_readQuoted {quote : Char} {content : List Char}
    (h : readQuoted quote cs = some (content, rest)) :
    cs = quotesDoubled quote content ++ quote :: rest := by
  fun_induction readQuoted quote cs generalizing content with
  | case1 => cases h
  | case2 =>
    cases h
    rfl
  | case3 => cases h
  | case4 more ih =>
    obtain ⟨⟨inside, behind⟩, hread, heq⟩ := Option.map_eq_some_iff.mp h
    cases heq
    rw [ih hread]
    simp [quotesDoubled]
  | case5 next more hnext =>
    cases h
    rfl
  | case6 c next more hc ih =>
    obtain ⟨⟨inside, behind⟩, hread, heq⟩ := Option.map_eq_some_iff.mp h
    cases heq
    rw [ih hread]
    simp [quotesDoubled, hc]

theorem readQuoted_suffix {quote : Char} {content : List Char}
    (h : readQuoted quote cs = some (content, rest)) : rest <:+ cs := by
  rw [eq_of_readQuoted h]
  exact (List.suffix_cons _ _).trans (List.suffix_append _ _)

theorem skipEscaped_suffix (h : skipEscaped cs = some rest) : rest <:+ cs := by
  fun_induction skipEscaped cs with
  | case1 => cases h
  | case2 more ih | case3 more ih | case4 more ih =>
    exact (ih h).trans ((List.suffix_cons _ _).trans (List.suffix_cons _ _))
  | case5 more =>
    cases h
    exact List.suffix_cons _ _
  | case6 c more _ _ _ _ ih => exact (ih h).trans (List.suffix_cons _ _)

theorem skipPast_suffix {stop : List Char} (h : skipPast stop cs = some rest) : rest <:+ cs := by
  fun_induction skipPast stop cs with
  | case1 => cases h
  | case2 c more =>
    cases h
    exact List.drop_suffix _ _
  | case3 c more _ ih => exact (ih h).trans (List.suffix_cons _ _)

theorem skipComment_suffix (opening closing : Char × Char) (nesting : Nat) (cs : List Char) :
    skipComment opening closing nesting cs <:+ cs := by
  fun_induction skipComment opening closing nesting cs with
  | case1 => exact List.suffix_refl _
  | case2 => exact List.nil_suffix
  | case3 => exact (List.suffix_cons _ _).trans (List.suffix_cons _ _)
  | case4 _ c d _ _ e after _ ih =>
    refine ih.trans ?_
    exact List.suffix_append [c, d, e] after
  | case5 _ c d _ _ e after _ ih =>
    exact ih.trans (List.suffix_cons c _)
  | case6 => exact List.nil_suffix

theorem skipNumber_suffix (hasPoint : Bool) (exponentSigns : Option Nat) (cs : List Char) :
    skipNumber hasPoint exponentSigns cs <:+ cs := by
  fun_induction skipNumber hasPoint exponentSigns cs <;>
    first
      | exact List.suffix_refl _
      | exact List.IsSuffix.trans ‹_› (List.suffix_cons _ _)

theorem afterWord_suffix {capitals : List Char} (h : afterWord capitals cs = some rest) :
    rest <:+ cs := by
  fun_induction afterWord capitals cs with
  | case1 =>
    cases h
    exact List.suffix_refl _
  | case2 => cases h
  | case3 _ _ _ _ _ ih => exact (ih h).trans (List.suffix_cons _ _)
  | case4 => cases h

theorem compound?_suffix {keyword : String} (h : compound? cs = some (keyword, rest)) :
    rest <:+ cs := by
  unfold compound? at h
  split at h
  · next hhyphen =>
    cases h
    exact afterWord_suffix hhyphen
  · obtain ⟨⟨first, second⟩, -, hwords⟩ := List.exists_of_findSome?_eq_some h
    dsimp only at hwords
    split at hwords
    · next c behind hfirst =>
      obtain ⟨-, hwords⟩ := Option.ite_none_right_eq_some.mp hwords
      split at hwords
      · next hsecond =>
        obtain ⟨-, hwords⟩ := Option.ite_none_right_eq_some.mp hwords
        cases hwords
        exact (afterWord_suffix hsecond).trans ((List.dropWhile_suffix _).trans
          ((List.suffix_cons _ _).trans (afterWord_suffix hfirst)))
      · cases hwords
    · cases hwords

/-! ### What is read of a text -/

/-- A name without a quote, a blank or a hyphen, which stands in a text as it is. -/
def IsSimpleName (name : String) : Prop :=
  ∀ c ∈ name.toList, c ∉ ['"', ' ', '-']

/-- A token stands at the start of a text, and the rest is behind it. -/
structure StandsIn (cs : List Char) (token : Token) (rest : List Char) : Prop where
  behind : rest <:+ cs
  named : token.isCallable = true → IsSimpleName token.name → token.name.toList <:+: cs

theorem StandsIn.of_unnamed {token : Token} (h : rest <:+ cs) (htoken : token.isCallable = false) :
    StandsIn cs token rest where
  behind := h
  named hcallable := by simp [htoken] at hcallable

theorem StandsIn.cons {token : Token} (c : Char) (h : StandsIn cs token rest) :
    StandsIn (c :: cs) token rest where
  behind := h.behind.trans (List.suffix_cons _ _)
  named hcallable hname := List.infix_cons (h.named hcallable hname)

theorem readDollar_standsIn {token : Token} (h : readDollar cs = some (token, rest)) :
    StandsIn cs token rest := by
  unfold readDollar at h
  dsimp only at h
  split at h
  · next body hbody =>
    split at h
    · cases h
      exact .of_unnamed (List.suffix_refl _) rfl
    · obtain ⟨behind, hskip, heq⟩ := Option.map_eq_some_iff.mp h
      cases heq
      have hinside : '$' :: body <:+ cs := hbody ▸ List.dropWhile_suffix _
      exact .of_unnamed ((skipPast_suffix hskip).trans ((List.suffix_cons _ _).trans hinside)) rfl
  · split at h
    · cases h
    · cases h
      exact .of_unnamed (List.suffix_refl _) rfl

theorem readLettered_standsIn {letter : Char} {token : Token}
    (h : readLettered letter cs = some (token, rest)) : StandsIn cs token rest := by
  unfold readLettered at h
  split at h
  · obtain ⟨behind, hskip, heq⟩ := Option.map_eq_some_iff.mp h
    cases heq
    exact .of_unnamed (skipEscaped_suffix hskip) rfl
  · split at h
    · cases h
    · next content behind hread =>
      split at h
      · cases h
      · split at h
        · cases h
        · cases h
          exact .of_unnamed (readQuoted_suffix hread) (by split <;> rfl)

theorem readNumber_standsIn {afterParameter : Bool} {token : Token}
    (h : readNumber afterParameter c cs = (token, rest)) : StandsIn (c :: cs) token rest := by
  have hdigits (base : Nat) (letters : List Char) : StandsIn (c :: cs)
      (if isNumberOf base letters (c :: cs.takeWhile continuesDigits) then .bytes
        else .quoted (String.ofList (c :: cs.takeWhile continuesDigits)))
      (cs.dropWhile continuesDigits) := by
    have hbehind : cs.dropWhile continuesDigits <:+ c :: cs :=
      (List.dropWhile_suffix _).trans (List.suffix_cons _ _)
    split
    · exact .of_unnamed hbehind rfl
    · refine ⟨hbehind, fun _ _ => ?_⟩
      rw [Token.name, String.toList_ofList]
      exact (List.cons_prefix_cons.mpr ⟨rfl, List.takeWhile_prefix _⟩).isInfix
  unfold readNumber at h
  split at h
  case h_5 =>
    cases h
    exact (StandsIn.of_unnamed (skipNumber_suffix _ _ _) rfl).cons _
  all_goals
    cases h
    exact hdigits _ _

theorem readWord_standsIn (afterParameter : Bool) (cs : List Char) :
    StandsIn cs (readWord afterParameter cs).1 (readWord afterParameter cs).2 where
  behind := (List.dropWhile_suffix _).trans (List.drop_suffix _ _)
  named _ _ := by
    have hspelling : (readWord afterParameter cs).1.name =
        String.ofList (cs.take 1 ++ (cs.drop 1).takeWhile continuesWord) := by
      cases afterParameter <;> rfl
    rw [hspelling, String.toList_ofList]
    nth_rewrite 3 [← List.take_append_drop 1 cs]
    exact ((List.prefix_append_right_inj _).mpr (List.takeWhile_prefix _)).isInfix

/-- A keyword of more than one word is spelled with a blank or a hyphen, whatever stands between
    the words. -/
theorem not_isSimpleName_of_compound {keyword : String} (h : compound? cs = some (keyword, rest)) :
    ¬ IsSimpleName keyword := by
  intro hname
  unfold compound? at h
  split at h
  · cases h
    exact absurd (hname '-' (by decide)) (by decide)
  · obtain ⟨⟨first, second⟩, -, hwords⟩ := List.exists_of_findSome?_eq_some h
    dsimp only at hwords
    split at hwords
    · obtain ⟨-, hwords⟩ := Option.ite_none_right_eq_some.mp hwords
      split at hwords
      · obtain ⟨-, hwords⟩ := Option.ite_none_right_eq_some.mp hwords
        cases hwords
        exact absurd (hname ' ' (by simp)) (by decide)
      · cases hwords
    · cases hwords

theorem readToken_standsIn {afterParameter : Bool} {token : Token}
    (h : readToken afterParameter cs = some (token, rest)) : StandsIn cs token rest := by
  unfold readToken at h
  split at h
  · cases h
  · cases h
    exact ((StandsIn.of_unnamed (List.dropWhile_suffix _) rfl).cons _).cons _
  · cases h
    exact ((StandsIn.of_unnamed (skipComment_suffix _ _ _ _) rfl).cons _).cons _
  · cases h
    exact ((StandsIn.of_unnamed (skipComment_suffix _ _ _ _) rfl).cons _).cons _
  · obtain ⟨⟨content, behind⟩, hread, heq⟩ := Option.map_eq_some_iff.mp h
    cases heq
    exact (StandsIn.of_unnamed (readQuoted_suffix hread) rfl).cons _
  · obtain ⟨⟨content, behind⟩, hread, heq⟩ := Option.map_eq_some_iff.mp h
    cases heq
    refine StandsIn.cons _ ⟨readQuoted_suffix hread, fun _ hname => ?_⟩
    have hquote : '"' ∉ content := fun hmem =>
      hname '"' (by simpa [Token.name] using hmem) (by simp)
    rw [Token.name, String.toList_ofList, eq_of_readQuoted hread, quotesDoubled_of_notMem hquote]
    exact (List.prefix_append _ _).isInfix
  · exact (readDollar_standsIn h).cons _
  · next c behind _ _ _ _ _ _ =>
    have hmark : StandsIn (c :: behind) (.mark (String.ofList [c])) behind :=
      (StandsIn.of_unnamed (List.suffix_refl _) rfl).cons _
    split at h
    · split at h
      · exact ((readLettered_standsIn h).cons _).cons _
      · split at h
        · exact readNumber_standsIn (Option.some.inj h)
        · split at h
          · cases h
            exact readWord_standsIn _ _
          · cases h
            exact hmark
    · split at h
      · exact readNumber_standsIn (Option.some.inj h)
      · split at h
        · cases h
          exact .of_unnamed (List.drop_suffix _ _) rfl
        · split at h
          · split at h
            · next hcompound =>
              cases h
              exact ⟨compound?_suffix hcompound, fun _ hname =>
                absurd hname (not_isSimpleName_of_compound hcompound)⟩
            · cases h
              exact readWord_standsIn _ _
          · cases h
            exact hmark

/-- The text in front of each token is an end of the whole text. -/
theorem readTokens_standsIn {limit : Nat} {afterParameter : Bool} {placed : List Placed}
    (h : readTokens limit afterParameter cs = some placed) :
    ∀ part ∈ placed, part.ahead <:+ cs ∧ StandsIn part.ahead part.token part.behind := by
  fun_induction readTokens limit afterParameter cs generalizing placed with
  | case1 | case2 =>
    cases h
    exact List.forall_mem_nil _
  | case3 limit afterParameter c more _ ih =>
    intro part hmem
    obtain ⟨hahead, hpart⟩ := ih h part hmem
    exact ⟨hahead.trans (List.suffix_cons _ _), hpart⟩
  | case4 => cases h
  | case5 _ _ _ _ _ _ _ hread =>
    rename_i ih
    obtain ⟨tokens, htokens, rfl⟩ := Option.map_eq_some_iff.mp h
    have hstands := readToken_standsIn hread
    refine List.forall_mem_cons.mpr ⟨⟨List.suffix_refl _, hstands⟩, fun part hmem => ?_⟩
    obtain ⟨hahead, hpart⟩ := ih htokens part hmem
    exact ⟨hahead.trans hstands.behind, hpart⟩

/-! ### The name of a call -/

theorem EmptyPlaces.suffix {tokens rest : List Token} (h : EmptyPlaces tokens rest) :
    rest <:+ tokens := by
  induction h with
  | none => exact List.suffix_refl _
  | more place _ ih =>
    obtain ⟨fillers, rfl, -⟩ := place
    exact ih.trans ((List.suffix_cons _ _).trans (List.suffix_append _ _))

/-- The name of a call is one of the tokens that spell it. -/
theorem Spells.exists_mem_name {tokens rest : List Token} {shape : Shape}
    (h : Spells tokens rest shape) {function : String} {first : Option Shape}
    (hcall : shape.stripped = .call function first) :
    ∃ token ∈ tokens, token.isCallable = true ∧ token.name = function := by
  induction h with
  | text | cast | typed | castCall | conversion | parsed => cases hcall
  | call hname =>
    cases hcall
    exact ⟨_, List.mem_cons_self, hname, rfl⟩
  | parenthesized places _ ih =>
    obtain ⟨token, hmem, htoken⟩ := ih hcall
    exact ⟨token, List.mem_cons_of_mem _ (places.suffix.subset hmem), htoken⟩
  | plus _ ih | all _ _ ih | star _ _ ih =>
    obtain ⟨token, hmem, htoken⟩ := ih hcall
    exact ⟨token, List.mem_cons_of_mem _ hmem, htoken⟩
  | as _ _ ih => exact ih hcall
  | opened _ _ ih | braces _ _ ih =>
    obtain ⟨token, hmem, htoken⟩ := ih hcall
    exact ⟨token, List.mem_cons_of_mem _ (List.mem_cons_of_mem _ hmem), htoken⟩

theorem IsStatement.subset {statement tokens : List Token} (h : IsStatement statement tokens) :
    statement ⊆ tokens := by
  cases h with
  | plain => exact List.Subset.refl _
  | ended => exact List.subset_append_left _ _

/-- A call whose first argument is a text is read only from a text in which its name stands, if
    it needs no quotes. -/
theorem name_infix_of_parse {shape first : Shape} {function : String}
    (h : parse cs = .ok shape) (hcall : shape.stripped = .call function (some first))
    (hfirst : first.content?.isSome = true) (hname : IsSimpleName function) :
    function.toList <:+: cs := by
  rcases parse_outcome h with hdull | ⟨placed, statement, htokens, hstatement, hspells⟩
  · simp [hdull.2 _ _ hcall] at hfirst
  · obtain ⟨token, hmem, hcallable, rfl⟩ := hspells.exists_mem_name hcall
    obtain ⟨part, hpart, rfl⟩ := List.mem_map.mp (hstatement.subset hmem)
    obtain ⟨hahead, hstands⟩ := readTokens_standsIn htokens part (List.mem_of_mem_filter hpart)
    exact (hstands.named hcallable hname).trans hahead.isInfix

end DartModels.Sql
