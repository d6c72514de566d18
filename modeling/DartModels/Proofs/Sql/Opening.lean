import DartModels.Proofs.Sql.Closing

namespace DartModels.Sql

open Reading

variable {read : Reader} {tokens rest : List Token} {shape : Shape}

/-- All keywords. -/
def keywords : List String :=
  reservedWords ++ namingWords ++ typeWords

/-- A word, in capitals, that means nothing to the language: it is no keyword, it starts no
    statement, and no function of the language bears it. -/
structure IsForeign (capitals : String) : Prop where
  isPlain : (Token.word capitals capitals).isPlainWord = true
  isBare : capitals ∉ bareWords
  command : capitals ∉ commandWords
  statement (read : Reader) : otherStatement? read capitals = none
  special (read : Reader) : specialCall? read capitals = none
  undefined : signature? capitals = none

theorem IsForeign.notMem_keywords {capitals : String} (h : IsForeign capitals) :
    capitals ∉ keywords := by
  have hplain := h.isPlain
  simp only [Token.isPlainWord, Bool.and_eq_true, Bool.not_eq_true', List.contains_eq_mem,
    decide_eq_false_iff_not] at hplain
  simp [keywords, hplain]

theorem IsForeign.ne {capitals : String} (h : IsForeign capitals) (keyword : String)
    (hkeyword : keyword ∈ keywords) : capitals ≠ keyword := by
  rintro rfl
  exact h.notMem_keywords hkeyword

/-- The tokens that operands of interest start with. -/
inductive Opens : Token → Prop where
  | parenthesis : Opens (.mark "(")
  | text (content : String) : Opens (.text content)
  | quoted (name : String) : Opens (.quoted name)
  | word (spelling : String) {capitals : String} (hforeign : IsForeign capitals) :
    Opens (.word spelling capitals)

theorem Opens.isKeyword {token : Token} (h : Opens token) (keyword : String)
    (hkeyword : keyword ∈ keywords) : token.isKeyword keyword = false := by
  cases h with
  | word spelling hforeign => simp [Token.isKeyword, hforeign.ne keyword hkeyword]
  | _ => rfl

theorem Opens.isOneOf {token : Token} (h : Opens token) (words : List String)
    (hwords : ∀ word ∈ words, word ∈ keywords) : token.isOneOf words = false := by
  cases h with
  | word spelling hforeign =>
    simpa [Token.isOneOf] using fun hmem => hforeign.notMem_keywords (hwords _ hmem)
  | _ => rfl

theorem Opens.ne_mark {token : Token} (h : Opens token) (spelling : String)
    (hspelling : spelling ≠ "(") : token ≠ .mark spelling := by
  cases h <;> simp [hspelling.symm]

section Start

variable {token : Token}

theorem mark_opens (h : Opens token) (spelling : String) (hspelling : spelling ≠ "(")
    (tokens : List Token) : mark spelling (token :: tokens) = .ok (false, token :: tokens) :=
  takeIf_of_head (by simpa using h.ne_mark spelling hspelling)

theorem keyword_opens (h : Opens token) (capitals : String) (hkeyword : capitals ∈ keywords)
    (tokens : List Token) : keyword capitals (token :: tokens) = .ok (false, token :: tokens) :=
  takeIf_of_head (by simpa using h.isKeyword capitals hkeyword)

theorem unary_opens (h : Opens token) :
    unary read (token :: tokens) = operand read (token :: tokens) := by
  have hplus := mark_opens h "+" (by decide) tokens
  have hbang := mark_opens h "!" (by decide) tokens
  have hnot := keyword_opens h "NOT" (by decide) tokens
  have hsign : signs token = none := by
    cases h with
    | word spelling hforeign =>
      have := hforeign.ne "REGEXP" (by decide)
      have := hforeign.ne "RLIKE" (by decide)
      simp_all [signs, ofSign?]
    | _ => rfl
  simp [unary, either, operator, hplus, hbang, hnot, hsign]

theorem dataType_opens (h : Opens token) (takesSizes : Bool) :
    dataType read { mayBeCall := true, takesSizes } (token :: tokens) =
      .ok (none, token :: tokens) := by
  refine orBack_none (token :: tokens) ?_
  cases h with
  | @word spelling capitals hforeign =>
    have hword : capitals ∉ typeWords := fun hmem =>
      hforeign.notMem_keywords (List.mem_append_right _ hmem)
    simp [hword]
  | _ => simp

theorem operand_opens (h : Opens token) (hrest : Closed rest) (depth : Nat)
    (hcolumn : column (Sql.read (depth + 1)) (token :: tokens) = .ok (some shape, rest)) :
    operand (Sql.read (depth + 1)) (token :: tokens) = .ok (some shape, rest) := by
  have hinterval : interval (Sql.read (depth + 1)) (token :: tokens) =
      .ok (none, token :: tokens) :=
    orBack_none (token :: tokens)
      (by simp [keyword_opens h "INTERVAL" (by decide)])
  have htype : Sql.read (depth + 1) (.dataType true) (token :: tokens) =
      .ok (none, token :: tokens) := dataType_opens h false
  have hnull := h.isKeyword "NULL" (by decide)
  simp [operand, hinterval, htype, hnull, hcolumn, columnOperators_closed hrest]

theorem placeholder_opens (read : Reader) (h : Opens token) :
    placeholder read (token :: tokens) = .ok (none, token :: tokens) := by
  refine orBack_none (token :: tokens) ?_
  have hparameter : takeIf Token.marksParameter (token :: tokens) = .ok (false, token :: tokens) :=
    takeIf_of_head (by
      simp [Token.marksParameter, h.ne_mark "@" (by decide),
        h.ne_mark "$" (by decide)])
  simp [mark_opens h, hparameter]

/-- What it takes to read an expression, with `)`, a comma or the end behind it. -/
theorem expression_of_column (h : Opens token) (hrest : Closed rest) (depth : Nat)
    (hcolumn : column (Sql.read (depth + 1)) (token :: tokens) = .ok (some shape, rest)) :
    expression (Sql.read (depth + 1)) (token :: tokens) = .ok (some shape, rest) := by
  have hunary : unary (Sql.read (depth + 1)) (token :: tokens) = .ok (some shape, rest) := by
    rw [unary_opens h, operand_opens h hrest depth hcolumn]
  rw [expression, bind_run, assignment_closed hunary hrest, ok_bind,
    aliased_closed depth false hrest]

end Start

end DartModels.Sql
