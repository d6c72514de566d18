import DartModels.Proofs.Constraint.RoundTrip
import DartModels.Proofs.Sql.Soundness

namespace DartModels.Constraint

open Sql (Shape Token)

/-! ### What stands around the expression of a check -/

/-- An expression between blanks, with or without the keyword of a check in front. -/
inductive IsCheckOf (expression : List Char) : List Char → Prop where
  | plain {cs : List Char} (h : Text.IsPadded expression cs) : IsCheckOf expression cs
  | keyword {before word rest : List Char} (before_blank : ∀ c ∈ before, Text.isBlank c = true)
      (spelled : List.Forall₂ (fun spellings c => c ∈ spellings) checkLetters word)
      (ends : ∀ c ∈ rest.head?, Text.isWordCharacter c = false)
      (h : Text.IsPadded expression rest) : IsCheckOf expression (before ++ (word ++ rest))

theorem exists_append_of_afterLetters {letters : List (List Char)} {cs rest : List Char}
    (h : afterLetters letters cs = some rest) :
    ∃ word, cs = word ++ rest ∧ List.Forall₂ (fun spellings c => c ∈ spellings) letters word := by
  fun_induction afterLetters letters cs with
  | case1 cs =>
    cases h
    exact ⟨[], rfl, .nil⟩
  | case2 => cases h
  | case3 spellings more c cs hc ih =>
    obtain ⟨word, rfl, hword⟩ := ih h
    exact ⟨c :: word, rfl, .cons (by simpa using hc) hword⟩
  | case4 => cases h

theorem isCheckOf_expressionOf (check : String) : IsCheckOf (expressionOf check) check.toList := by
  have hplain : IsCheckOf (Text.trimBlanks check.toList) check.toList :=
    .plain (Text.isPadded_trimBlanks _)
  have hkeyword {rest : List Char}
      (hletters : afterLetters checkLetters (check.toList.dropWhile Text.isBlank) = some rest)
      (hends : ∀ c ∈ rest.head?, Text.isWordCharacter c = false) :
      IsCheckOf (Text.trimBlanks rest) check.toList := by
    obtain ⟨word, hcheck, hword⟩ := exists_append_of_afterLetters hletters
    rw [← List.takeWhile_append_dropWhile (p := Text.isBlank) (l := check.toList), hcheck]
    exact .keyword (fun c hc => List.mem_takeWhile_imp hc) hword hends (Text.isPadded_trimBlanks _)
  unfold expressionOf dropCheckKeyword
  split
  · next hletters => exact hkeyword hletters (by simp)
  · next c rest hletters =>
    split
    · exact hplain
    · next hc => exact hkeyword hletters (by simpa using hc)
  · exact hplain

/-! ### What is read in a check -/

theorem literalOf_some (shape : Shape) : literalOf (some shape) = shape.content? := by
  cases shape <;> rfl

/-- Some tokens are a call of one of some functions with a text as the first argument. -/
def IsCallWith (functions : List String) (content : String) (tokens : List Token) : Prop :=
  ∃ shape function first, Sql.Spells tokens [] shape ∧
    shape.stripped = .call function (some first) ∧ Text.lowercase function ∈ functions ∧
    first.content? = some content

/-- The text of a schema in an expression: the first argument of a call of one of some functions. -/
def HasSchemaText (functions : List String) (expression : List Char) (content : String) : Prop :=
  ∃ shape function first, Sql.parse expression = .ok shape ∧
    shape.stripped = .call function (some first) ∧ Text.lowercase function ∈ functions ∧
    first.content? = some content

theorem IsCallWith.of_hasSchemaText {functions : List String} {text : List Char} {content : String}
    (h : HasSchemaText functions text content) :
    ∃ placed statement, Sql.tokens? text = some placed ∧
      Sql.IsStatement statement (Sql.uncommented placed) ∧
      IsCallWith functions content statement := by
  obtain ⟨shape, function, first, hparse, hcall, hfunction, hcontent⟩ := h
  rcases Sql.parse_outcome hparse with hdull | ⟨placed, statement, htokens, hstatement, hspells⟩
  · simp [hdull.2 _ _ hcall] at hcontent
  · exact ⟨placed, statement, htokens, hstatement, shape, function, first, hspells, hcall,
      hfunction, hcontent⟩

section

variable [Text.HalfBlock]

/-- A text is the check of a schema: its one statement, comments left out, is a call of one of
    some functions in any case, and the first argument is the schema. -/
def IsSchemaCheck (functions : List String) (members : Json.Members) (cs : List Char) : Prop :=
  ∃ expression placed statement content, IsCheckOf expression cs ∧
    Sql.tokens? expression = some placed ∧ Sql.IsStatement statement (Sql.uncommented placed) ∧
    IsCallWith (functions.map Text.lowercase) content statement ∧
    Json.load content = .ok (.object members)

variable {functions : List String} {expression : List Char}

/-- The text of a schema is loaded. -/
theorem schemaOf_of_hasSchemaText {content : String}
    (h : HasSchemaText functions expression content) :
    schemaOf functions expression =
      match Json.load content with
      | .error .tooManyDigits => .error .tooManyDigits
      | .error (.malformed error) => .ok (.error (.notJson error.fault))
      | .ok (.object members) => .ok (.ok members)
      | .ok _ => .ok (.error .notObject) := by
  obtain ⟨shape, function, first, hparse, hcall, hfunction, hcontent⟩ := h
  have hknown : functions.contains (Text.lowercase function) = true := by simpa using hfunction
  rcases hload : Json.load content with (error | _) | (_ | _ | _ | _ | _ | _ | _) <;>
    simp only [schemaOf, hparse, hcall, hknown, literalOf_some, hcontent, hload, if_true]

/-- Without a text there is something wrong with the expression. -/
theorem schemaOf_of_not_hasSchemaText
    (h : ∀ content, ¬HasSchemaText functions expression content) :
    ∃ fault, schemaOf functions expression = .ok (.error fault) := by
  unfold schemaOf
  split
  · exact ⟨_, rfl⟩
  · next shape hparse =>
    split
    · next function first hcall =>
      split
      · next hfunction =>
        cases first with
        | none => exact ⟨_, rfl⟩
        | some first =>
          rw [literalOf_some]
          split
          · exact ⟨_, rfl⟩
          · next content hcontent =>
            exact absurd ⟨shape, function, first, hparse, hcall, by simpa using hfunction,
              hcontent⟩ (h content)
      · exact ⟨_, rfl⟩
    · exact ⟨_, rfl⟩

theorem schemaOf_eq_ok_iff {members : Json.Members} :
    schemaOf functions expression = .ok (.ok members) ↔
      ∃ content, HasSchemaText functions expression content ∧
        Json.load content = .ok (.object members) := by
  constructor
  · intro h
    by_cases htext : ∃ content, HasSchemaText functions expression content
    · obtain ⟨content, hcontent⟩ := htext
      rw [schemaOf_of_hasSchemaText hcontent] at h
      split at h
      · cases h
      · cases h
      · next hjson =>
        cases h
        exact ⟨content, hcontent, hjson⟩
      · cases h
    · obtain ⟨fault, hfault⟩ := schemaOf_of_not_hasSchemaText (not_exists.mp htext)
      cases hfault.symm.trans h
  · rintro ⟨content, hcontent, hjson⟩
    rw [schemaOf_of_hasSchemaText hcontent, hjson]

/-- Only a number of too many digits keeps an expression from being read or found faulty. -/
theorem schemaOf_eq_error_iff {fault : Fault} :
    schemaOf functions expression = .error fault ↔ fault = .tooManyDigits ∧
      ∃ content, HasSchemaText functions expression content ∧
        Json.load content = .error .tooManyDigits := by
  constructor
  · intro h
    by_cases htext : ∃ content, HasSchemaText functions expression content
    · obtain ⟨content, hcontent⟩ := htext
      rw [schemaOf_of_hasSchemaText hcontent] at h
      split at h
      · next hjson =>
        cases h
        exact ⟨rfl, content, hcontent, hjson⟩
      · cases h
      · cases h
      · cases h
    · obtain ⟨fault, hfault⟩ := schemaOf_of_not_hasSchemaText (not_exists.mp htext)
      cases hfault.symm.trans h
  · rintro ⟨rfl, content, hcontent, hjson⟩
    rw [schemaOf_of_hasSchemaText hcontent, hjson]

/-- The schema of a value that may be a check constraint and is read even where it names none of
    the functions. -/
def extractAnyway (functions : List String) (subject check : Json) :
    Traced Diagnostic Fault (Option Json.Members) :=
  if check.isTruthy then
    match check with
    | .text check => do
      match ← .lift (schemaOf (functions.map Text.lowercase) (expressionOf check)) with
      | .ok members => return some members
      | .error fault => do
        .tell (fault.diagnostic check subject)
        return none
    | _ => .lift (.error .checkNotText)
  else pure none

variable {subject : Json} {check : String}

/-- Whether a check names one of the functions only decides whether it is read. -/
theorem extractFrom_eq :
    extractFrom functions subject (.text check) =
      if mentions (functions.map Text.lowercase) (expressionOf check) then
        extractAnyway functions subject (.text check)
      else pure none := by
  unfold extractFrom extractAnyway
  split
  · rfl
  · exact (ite_self _).symm

/-- What becomes of a check that is read is what becomes of its expression. -/
theorem extractAnyway_eq (hcheck : check ≠ "") :
    extractAnyway functions subject (.text check) =
      match schemaOf (functions.map Text.lowercase) (expressionOf check) with
      | .error fault => { trace := [], outcome := .error fault }
      | .ok (.error fault) =>
        { trace := [fault.diagnostic check subject], outcome := .ok none }
      | .ok (.ok members) => { trace := [], outcome := .ok (some members) } := by
  have htruthy : (Json.text check).isTruthy = true := by simpa [Json.isTruthy] using hcheck
  simp only [extractAnyway, htruthy, if_true]
  rcases schemaOf (functions.map Text.lowercase) (expressionOf check) with
    fault | (fault | members) <;> rfl

/-- A schema is given without a note, and where the expression holds one. -/
theorem schemaOf_of_extractAnyway {trace : List Diagnostic} {members : Json.Members}
    (h : extractAnyway functions subject (.text check) = { trace, outcome := .ok (some members) }) :
    trace = [] ∧
      schemaOf (functions.map Text.lowercase) (expressionOf check) = .ok (.ok members) := by
  by_cases hcheck : check = ""
  · subst hcheck
    cases h
  · rw [extractAnyway_eq hcheck] at h
    split at h
    · cases h
    · cases h
    · next hschema =>
      cases h
      exact ⟨rfl, hschema⟩

/-- A check that is read is a call of one of the functions, whatever its case and the parentheses
    around it, and its schema is what the text in front of all other arguments says. There need
    be no other arguments, and the text may be marked as JSON in more ways than one. -/
theorem extractFrom_sound {trace : List Diagnostic} {members : Json.Members}
    (h : extractFrom functions subject (.text check) = { trace, outcome := .ok (some members) }) :
    trace = [] ∧ IsSchemaCheck functions members check.toList := by
  rw [extractFrom_eq] at h
  split at h
  · obtain ⟨rfl, hschema⟩ := schemaOf_of_extractAnyway h
    obtain ⟨content, htext, hjson⟩ := schemaOf_eq_ok_iff.mp hschema
    obtain ⟨placed, statement, htokens, hstatement, hspells⟩ := IsCallWith.of_hasSchemaText htext
    exact ⟨rfl, _, placed, statement, content, isCheckOf_expressionOf check, htokens, hstatement,
      hspells, hjson⟩
  · cases h

end

section

variable {function : String}

/-- A call of a function with a text as its only argument. -/
def callOf (function : String) (content : List Char) : String :=
  String.ofList (function.toList ++
    '(' :: '\'' :: (Sql.quotesDoubled '\'' content ++ ['\'', ')']))

/-- Nothing is dropped in front of a call or behind it. -/
theorem expressionOf_callOf (hdefault : function.toLower ∈ defaultFunctions)
    (content : List Char) :
    callOf function content ≠ "" ∧
      expressionOf (callOf function content) = (callOf function content).toList := by
  obtain ⟨c, cs, hfunction, hc⟩ := exists_cons_of_head (head_of_default hdefault)
  obtain ⟨inside, hcall⟩ : ∃ inside, (callOf function content).toList = c :: (inside ++ [')']) :=
    ⟨cs ++ '(' :: '\'' :: (Sql.quotesDoubled '\'' content ++ ['\'']), by
      simp [callOf, String.toList_ofList, hfunction]⟩
  have hletter : Text.isBlank c = false ∧ c ≠ 'C' ∧ c ≠ 'c' := by
    clear hfunction hcall
    revert c
    decide
  have hdrop : dropCheckKeyword (c :: (inside ++ [')'])) = c :: (inside ++ [')']) := by
    simp [dropCheckKeyword, afterLetters, checkLetters, hletter]
  have htrim : Text.trimBlanks ([] ++ (c :: (inside ++ [')']) ++ [])) = c :: (inside ++ [')']) :=
    Text.trimBlanks_append (by simp) (by simp) (by simp) (by simpa using hletter.1)
      (by rw [← List.cons_append, List.getLast?_concat]; rintro _ ⟨⟩; decide)
  rw [List.nil_append, List.append_nil] at htrim
  constructor
  · rintro hempty
    simp [hempty] at hcall
  · rw [expressionOf, hcall, hdrop, htrim]

/-- The text is looked at for a schema, whatever it is. -/
theorem hasSchemaText_callOf (hdefault : function.toLower ∈ defaultFunctions)
    (content : List Char) :
    HasSchemaText (defaultFunctions.map Text.lowercase) (expressionOf (callOf function content))
      (String.ofList content) := by
  have hname := isNameCharacter_of_default hdefault
  have hforeign := isForeign_of_default hdefault
  have hargument : Sql.Lexes ('\'' :: (Sql.quotesDoubled '\'' content ++ ['\'', ')']))
      [.text (String.ofList content), .mark ")"] :=
    (Sql.Lexes.nil.mark (c := ')') (by decide)).text content (by decide)
  have hlexes := lexes_word function hname (head_of_default hdefault) (by decide)
    (hargument.mark (c := '(') (by decide))
  have hreads (depth : Nat) := Sql.reads_call hforeign depth
    (Sql.reads_text depth (String.ofList content)) (List.forall_mem_nil _)
  have hparse := Sql.parse_of_lexes hlexes (by simp [Token.ofWord])
    (Sql.statementShape_enclosed (.word _ hforeign) rfl hreads 0)
  have hsmall : Text.lowercase function ∈ defaultFunctions.map Text.lowercase := by
    rw [Spelling.map_lowercase_defaultFunctions, Text.lowercase_name fun c hc =>
      Text.isIdentifierCharacter_of_isNameCharacter (hname c hc)]
    exact hdefault
  rw [(expressionOf_callOf hdefault content).2, callOf, String.toList_ofList]
  exact ⟨_, _, _, hparse, rfl, hsmall, rfl⟩

end

/-- A call of one argument. -/
def singleArgument : String := "jsonb_matches_schema('\x7b\x7d')"

/-- The comma may be missing with what stands behind it. -/
theorem extractFrom_singleArgument :
    extractFrom defaultFunctions (.text "note") (.text singleArgument) =
        { trace := [], outcome := .ok (some []) } ∧
      IsSchemaCheck defaultFunctions [] singleArgument.toList := by
  have hdefault : "jsonb_matches_schema".toLower ∈ defaultFunctions := by decide +kernel
  have hcall : singleArgument = callOf "jsonb_matches_schema" ['\x7b', '\x7d'] := by decide +kernel
  have hexpression : expressionOf singleArgument = singleArgument.toList := by
    rw [hcall]
    exact (expressionOf_callOf hdefault _).2
  have htext : HasSchemaText (defaultFunctions.map Text.lowercase) (expressionOf singleArgument)
      "\x7b\x7d" := by
    rw [hcall]
    exact hasSchemaText_callOf hdefault _
  have hempty : Json.Exact Json.digitLimit (.object []) := .object (by decide) (by simp)
  have hjson : Json.load "\x7b\x7d" = .ok (.object []) := Json.load_print hempty
  have hschema : schemaOf (defaultFunctions.map Text.lowercase) (expressionOf singleArgument) =
      .ok (.ok []) := schemaOf_eq_ok_iff.mpr ⟨_, htext, hjson⟩
  have hnamed : mentions (defaultFunctions.map Text.lowercase) (expressionOf singleArgument) =
      true := by
    rw [hexpression]
    exact Spelling.mentions_of_infix hdefault ⟨[], "('\x7b\x7d')".toList, rfl⟩
  have hread : extractFrom defaultFunctions (.text "note") (.text singleArgument) =
      { trace := [], outcome := .ok (some []) } := by
    rw [extractFrom_eq, if_pos hnamed, extractAnyway_eq (by decide), hschema]
  exact ⟨hread, (extractFrom_sound hread).2⟩

end DartModels.Constraint
