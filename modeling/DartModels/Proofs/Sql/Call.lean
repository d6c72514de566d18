import DartModels.Proofs.Sql.Opening

namespace DartModels.Sql

open Reading

variable {read : Reader} {tokens rest : List Token} {shape : Shape}

theorem primary_text (content : String) (h : ∀ token ∈ rest.head?, token.isText = false) :
    primary read (.text content :: rest) = .ok (some (.literal content), rest) := by
  have hjoined : iterate (fun _ => do return if ← plainText then some true else none) false rest =
      .ok (false, rest) := by
    refine iterate_stop ?_
    have : plainText rest = .ok (false, rest) := takeIf_of_head h
    simp [this]
  simp [-bind_pure_comp, primary, hjoined]

theorem column_text (content : String) (h : Closed rest) :
    column read (.text content :: rest) = .ok (some (.literal content), rest) := by
  simp [column, columnBase, primary_text content (h.head_eq_false rfl rfl),
    columnOperators_closed h]

theorem column_quoted (depth : Nat) (name : String) (h : Closed rest) :
    column (Sql.read (depth + 1)) (.quoted name :: rest) = .ok (some (.name name false), rest) := by
  have hfunction : function (Sql.read (depth + 1)) plainStyle (.quoted name :: rest) =
      .ok (none, .quoted name :: rest) := by
    have hcall : usualCall (Sql.read (depth + 1)) plainStyle (.quoted name :: rest) =
        .ok (none, .quoted name :: rest) := by
      cases rest with
      | nil => simp [usualCall, Token.isOneOf]
      | cons token rest =>
        obtain rfl | rfl := h token rfl
        · simp [usualCall, Token.isOneOf]
        · simp [usualCall, Token.isOneOf]
    simp [function, call, hcall]
  simp [column, columnBase, primary, hfunction, Sql.name, nameAmong, Token.isOneOf,
    columnOperators_closed h]

/-- Nothing goes on the name of a type of JSON. -/
theorem typeBehind_json {type : String} (hjson : type ∈ jsonTypes) (h : Closed tokens) :
    typeBehind read { mayBeCall := false, takesSizes := false } (some type) tokens =
      .ok (some (.dataType true false), tokens) := by
  have hlist : iterate (fun _ => do return if ← keyword "LIST" then some true else none) false
      tokens = .ok (false, tokens) := iterate_stop (by simp [h.keyword])
  have hunsigned := h.words "UNSIGNED" [] (by decide) (by decide)
  have hkind : type ≠ "MAP" ∧ type ≠ "NULLABLE" ∧ type ≠ "INTERVAL" ∧ type ≠ "ARRAY" ∧
      type ∉ nestedTypes ∧ type ∉ recordTypes ∧ type ∉ momentTypes := by
    revert type
    decide
  obtain ⟨hmap, hnullable, hinterval, harray, hnested, hrecord, hmoment⟩ := hkind
  simp [-bind_pure_comp, typeBehind, typeDetails, typeMarks, hmap, hnullable, hinterval, harray,
    hnested, hrecord, hmoment, h.mark, hunsigned, hlist, arrayMarks_closed _ _ h, hjson]

theorem dataType_json {spelling type : String} (hjson : type ∈ jsonTypes) (h : Closed rest) :
    dataType read { mayBeCall := false, takesSizes := false } (.word spelling type :: rest) =
      .ok (some (.dataType true false), rest) := by
  refine orBack_some ?_
  have hkind : type ∈ typeWords ∧ type ∉ bareTypes := by
    revert type
    decide
  simp [hkind.1, dataType.known, hkind.2, typeBehind_json hjson h]

theorem columnOperators_cast (depth : Nat) (content : String) {spelling type : String}
    (hjson : type ∈ jsonTypes) (h : Closed rest) :
    columnOperators (Sql.read (depth + 1)) (.literal content)
        (.mark "::" :: .word spelling type :: rest) = .ok (.json content, rest) := by
  have hbracketed : bracketed (Sql.read (depth + 1)) (some (.literal content))
      (.mark "::" :: .word spelling type :: rest) =
        .ok (some (.literal content), .mark "::" :: .word spelling type :: rest) :=
    iterate_stop (by simp [mark, takeIf])
  have htype : Sql.read (depth + 1) (.dataType false) (.word spelling type :: rest) =
      .ok (some (.dataType true false), rest) := dataType_json hjson h
  rw [columnOperators, bind_run, hbracketed, ok_bind]
  refine iterate_once ?_ ?_ (List.cons_ne_nil _ _)
  · simp [mark, takeIf, htype, bracketed_closed h, Shape.castTo]
  · simp [h.mark]

theorem column_cast (depth : Nat) (content : String) {spelling type : String}
    (hjson : type ∈ jsonTypes) (h : Closed rest) :
    column (Sql.read (depth + 1)) (.text content :: .mark "::" :: .word spelling type :: rest) =
      .ok (some (.json content), rest) := by
  have hprimary : primary (Sql.read (depth + 1))
      (.text content :: .mark "::" :: .word spelling type :: rest) =
        .ok (some (.literal content), .mark "::" :: .word spelling type :: rest) :=
    primary_text content (by simp [Token.isText])
  simp [column, columnBase, hprimary, columnOperators_cast depth content hjson h]

/-- A text or a name in quotes is no list of names in front of an arrow. -/
theorem lambda_single {token : Token} (htoken : token.isText ∨ token.isQuoted) (depth : Nat)
    (hrest : ∀ next ∈ rest.head?, next ≠ .mark "->" ∧ next ≠ .mark "=>") :
    lambda (Sql.read (depth + 1)) (token :: rest) = .ok (none, token :: rest) := by
  refine orBack_none rest ?_
  obtain ⟨name, hname⟩ :
      ∃ name, anyName (Sql.read (depth + 1)) (token :: rest) = .ok (some name, rest) := by
    cases token with
    | text content =>
      have hplaceholder : Sql.read (depth + 1) .placeholder (.text content :: rest) =
          .ok (none, .text content :: rest) := placeholder_opens (Sql.read depth) (.text content)
      simp [anyName, nameAmong, hplaceholder, Token.isAnyName]
    | quoted name => simp [anyName, nameAmong]
    | _ => simp [Token.isText, Token.isQuoted] at htoken
  have hmark (spelling : String) (harrow : spelling = "->" ∨ spelling = "=>") :
      mark spelling rest = .ok (false, rest) := by
    refine takeIf_of_head fun next hnext => ?_
    obtain rfl | rfl := harrow
    · simpa using (hrest next hnext).1
    · simpa using (hrest next hnext).2
  have hparenthesis : mark "(" (token :: rest) = .ok (false, token :: rest) := by
    refine takeIf_of_head ?_
    cases token <;> simp_all [Token.isText, Token.isQuoted]
  simp [hparenthesis, hname, hmark]

/-- An argument that is no list of names in front of an arrow is an expression. -/
theorem argument_of_column {token : Token} (htoken : token.isText ∨ token.isQuoted) (depth : Nat)
    (hnext : ∀ next ∈ tokens.head?, next ≠ .mark "->" ∧ next ≠ .mark "=>") (hrest : Closed rest)
    (hcolumn : column (Sql.read (depth + 1)) (token :: tokens) = .ok (some shape, rest)) :
    argument (Sql.read (depth + 2)) true (token :: tokens) = .ok (some shape, rest) := by
  have hopens : Opens token := by
    cases token with
    | text content => exact .text content
    | quoted name => exact .quoted name
    | _ => simp [Token.isText, Token.isQuoted] at htoken
  have hassignment : Sql.read (depth + 2) .assignment (token :: tokens) =
      .ok (some shape, rest) := by
    refine assignment_closed ?_ hrest
    rw [unary_opens hopens, operand_opens hopens hrest depth hcolumn]
  have hdistinct := keyword_opens hopens "DISTINCT" (by decide) tokens
  have hall := keyword_opens hopens "ALL" (by decide) tokens
  simp [argument, lambda_single htoken (depth + 1) hnext, hdistinct, hall, expressionOrQuery,
    hassignment, aliased_closed (depth + 1) true hrest, joinedQueries_closed hrest,
    argumentClauses_closed hrest]

theorem ne_arrow_of_closed (h : Closed rest) :
    ∀ next ∈ rest.head?, next ≠ .mark "->" ∧ next ≠ .mark "=>" := by
  intro next hnext
  obtain rfl | rfl := h next hnext
  · simp
  · simp

theorem reads_text (depth : Nat) (content : String) :
    Reads (argument (Sql.read (depth + 2)) true) [.text content] (.literal content) :=
  fun _ hrest => argument_of_column (.inl rfl) depth (ne_arrow_of_closed hrest) hrest
    (column_text content hrest)

theorem reads_cast (depth : Nat) (content : String) {spelling type : String}
    (hjson : type ∈ jsonTypes) :
    Reads (argument (Sql.read (depth + 2)) true)
      [.text content, .mark "::", .word spelling type] (.json content) :=
  fun _ hrest => argument_of_column (.inl rfl) depth (by simp) hrest
    (column_cast depth content hjson hrest)

theorem reads_quoted (depth : Nat) (name : String) :
    Reads (argument (Sql.read (depth + 2)) true) [.quoted name] (.name name false) :=
  fun _ hrest => argument_of_column (.inr rfl) depth (ne_arrow_of_closed hrest) hrest
    (column_quoted depth name hrest)

/-- The tokens of a call. -/
def callTokens (function : String) (first : List Token) (more : List (List Token × Shape)) :
    List Token :=
  Token.ofWord function :: .mark "(" :: (first ++ (behindCommas more ++ [.mark ")"]))

theorem callTokens_append (function : String) (first : List Token)
    (more : List (List Token × Shape)) (rest : List Token) :
    callTokens function first more ++ rest = Token.ofWord function :: .mark "(" ::
      (first ++ (behindCommas more ++ .mark ")" :: rest)) := by
  simp [callTokens]

theorem usualCall_of_callable {token : Token} (htoken : token.isCallable = true)
    (hbehind : callBehind read plainStyle token tokens = .ok (shape, rest)) :
    usualCall read plainStyle (token :: .mark "(" :: tokens) = .ok (some shape, rest) := by
  have hstyle : plainStyle.isQualified = false := rfl
  simp [usualCall, hstyle, htoken, hbehind]

section Call

variable {function : String} {first : List Token} {value : Shape}
  {more : List (List Token × Shape)}

/-- A word that is no function without parentheses starts a usual call, if any. -/
theorem function_word (hbare : inCapitals function ∉ bareWords) (tokens : List Token) :
    Sql.function read plainStyle (Token.ofWord function :: tokens) =
      usualCall read plainStyle (Token.ofWord function :: tokens) := by
  simp [Sql.function, Token.ofWord, call, hbare]

theorem commonCall_foreign (hforeign : IsForeign (inCapitals function)) (depth : Nat)
    (hfirst : Reads (argument (Sql.read (depth + 2)) true) first value)
    (hmore : ∀ next ∈ more, Reads (argument (Sql.read (depth + 2)) true) next.1 next.2)
    (tokens : List Token) :
    commonCall (Sql.read (depth + 3)) function false
        (first ++ (behindCommas more ++ .mark ")" :: tokens)) =
      .ok (.call function (some value), .mark ")" :: tokens) := by
  have harguments : list (Sql.read (depth + 3) (.argument true))
      (first ++ (behindCommas more ++ .mark ")" :: tokens)) =
        .ok (value :: more.map Prod.snd, .mark ")" :: tokens) :=
    list_reads hfirst hmore tokens
  simp [commonCall, hforeign.undefined, harguments]

/-- A call of a function that the language does not define. -/
theorem function_foreign (hforeign : IsForeign (inCapitals function)) (depth : Nat)
    (hfirst : Reads (argument (Sql.read (depth + 2)) true) first value)
    (hmore : ∀ next ∈ more, Reads (argument (Sql.read (depth + 2)) true) next.1 next.2)
    (hrest : Closed rest) :
    Sql.function (Sql.read (depth + 3)) plainStyle (callTokens function first more ++ rest) =
      .ok (some (.call function (some value)), rest) := by
  have hcommon := commonCall_foreign hforeign depth hfirst hmore rest
  have hrow : (Token.ofWord function).isOneOf rowWords = false :=
    (Opens.word function hforeign).isOneOf rowWords (by decide)
  have hcallable : (Token.ofWord function).isCallable = true := by
    simpa [Token.isCallable, Token.ofWord] using .inl (.inl hforeign.isPlain)
  have hname : (Token.ofWord function).name = function := rfl
  have hbehind : callBehind (Sql.read (depth + 3)) plainStyle (Token.ofWord function)
      (first ++ (behindCommas more ++ .mark ")" :: rest)) =
        .ok (.call function (some value), rest) := by
    simp [callBehind, plainStyle, hname, hforeign.special, hrow, hcommon, expectMark_run,
      windowed_closed hrest, isNext]
  rw [callTokens_append, function_word hforeign.isBare]
  exact usualCall_of_callable hcallable hbehind

/-- A call is read with its name and its first argument. -/
theorem reads_call (hforeign : IsForeign (inCapitals function)) (depth : Nat)
    (hfirst : Reads (argument (Sql.read (depth + 2)) true) first value)
    (hmore : ∀ next ∈ more, Reads (argument (Sql.read (depth + 2)) true) next.1 next.2) :
    Reads (expression (Sql.read (depth + 3))) (callTokens function first more)
      (.call function (some value)) := by
  intro rest hrest
  have hopens : Opens (Token.ofWord function) := .word function hforeign
  have hfunction := function_foreign hforeign depth hfirst hmore hrest
  have hprimary (tokens : List Token) : primary (Sql.read (depth + 3))
      (Token.ofWord function :: tokens) = .ok (none, Token.ofWord function :: tokens) := by
    have hconstant := hopens.isOneOf ["FALSE", "NULL", "TRUE"] (by decide)
    simp only [Token.ofWord] at hconstant
    simp [primary, Token.ofWord, hconstant]
  rw [callTokens_append] at hfunction ⊢
  refine expression_of_column hopens hrest (depth + 2) ?_
  simp [column, columnBase, hprimary, hfunction, columnOperators_closed hrest]

end Call

end DartModels.Sql
