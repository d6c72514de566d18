import DartModels.Proofs.Constraint.Spelling
import DartModels.Proofs.Json.RoundTrip
import DartModels.Proofs.Text.Blank
import DartModels.Proofs.Traced
import Mathlib.Data.List.Forall2

namespace DartModels.Constraint

theorem isBlank_head_name {name : String} (hname : ∀ c ∈ name.toList, Text.isNameCharacter c = true)
    (hne : name.toList ≠ []) (rest : List Char) :
    ∀ c ∈ (name.toList ++ rest).head?, Text.isBlank c = false := by
  intro c hc
  rw [List.head?_append_of_ne_nil _ hne] at hc
  exact (Sql.isNameCharacter_spec (hname c (List.mem_of_mem_head? hc))).2.2.1

/-! ### The keyword in front -/

theorem afterLetters_append {letters : List (List Char)} {word : List Char}
    (h : List.Forall₂ (fun spellings c => c ∈ spellings) letters word) (rest : List Char) :
    afterLetters letters (word ++ rest) = some rest := by
  induction h with
  | nil => rfl
  | cons hc _ ih => simp [afterLetters, hc, ih]

namespace Keyword

theorem spells (keyword : Keyword) :
    List.Forall₂ (fun spellings c => c ∈ spellings) checkLetters keyword.word.toList := by
  have hcases : List.Forall₂ (fun spellings small => Text.isNameCharacter small = true ∧
      small ∈ spellings ∧ small.toUpper ∈ spellings) checkLetters "check".toList := by
    decide
  rw [← keyword.isCheck, Text.toList_toLower, List.forall₂_map_right_iff] at hcases
  refine hcases.imp fun spellings c ⟨hsmall, hmem, hupper⟩ => ?_
  obtain heq | heq := Text.eq_or_eq_toUpper_of_toLower hsmall rfl
  · rwa [heq]
  · rwa [heq]

/-- The keyword is dropped with the blanks in front of it. -/
theorem drop (keyword : Keyword) (rest : List Char) :
    dropCheckKeyword (keyword.before.val ++ (keyword.word.toList ++ (keyword.behind.val ++ rest))) =
      keyword.behind.val ++ rest := by
  obtain ⟨blank, blanks, hblanks⟩ := List.exists_cons_of_ne_nil keyword.isSeparated
  have hblank : Text.isWordCharacter blank = false :=
    Text.isWordCharacter_of_isBlank (keyword.behind.property blank (by simp [hblanks]))
  have hname : ∀ c ∈ keyword.word.toList, Text.isNameCharacter c = true :=
    Text.isNameCharacter_of_mem (by rw [keyword.isCheck]; decide)
  have hne : keyword.word.toList ≠ [] := by
    intro hnil
    have := keyword.spells
    simp [hnil, checkLetters] at this
  rw [dropCheckKeyword,
    Text.dropWhile_isBlank keyword.before.property (isBlank_head_name hname hne _),
    afterLetters_append keyword.spells, hblanks, List.cons_append]
  simp [hblank]

end Keyword

namespace Spelling

theorem exists_call_cons (spelling : Spelling) (schema : Json.Members) :
    ∃ c cs, spelling.call schema = c :: cs ∧ c ∈ ['j', 'J'] := by
  obtain ⟨c, cs, hfunction, hc⟩ := exists_cons_of_head spelling.head_function
  exact ⟨c, _, by rw [call, hfunction, List.cons_append], hc⟩

theorem getLast?_call (spelling : Spelling) (schema : Json.Members) :
    (spelling.call schema).getLast? = some ')' := by
  simp [call, List.getLast?_cons, List.getLast?_append]

theorem isBlank_head_call (spelling : Spelling) (schema : Json.Members) (rest : List Char) :
    ∀ c ∈ (spelling.call schema ++ rest).head?, Text.isBlank c = false := by
  obtain ⟨c, cs, hcall, hc⟩ := spelling.exists_call_cons schema
  have hblank : Text.isBlank c = false := by
    clear hcall
    revert c
    decide
  simpa [hcall] using hblank

/-- Behind the blanks in front of it a check starts like no keyword. -/
theorem dropWhile_expression (spelling : Spelling) (schema : Json.Members) :
    ∃ c cs, (spelling.expression schema).dropWhile Text.isBlank = c :: cs ∧
      c ∈ ['(', 'j', 'J'] := by
  cases hpairs : spelling.pairs with
  | zero =>
    obtain ⟨c, cs, hcall, hc⟩ := spelling.exists_call_cons schema
    refine ⟨c, cs ++ spelling.closing.val, ?_, List.mem_cons_of_mem _ hc⟩
    have hstart := Text.dropWhile_isBlank spelling.opening.property
      (spelling.isBlank_head_call schema spelling.closing.val)
    simpa [expression, hpairs, hcall] using hstart
  | succ pairs =>
    exact ⟨'(', _, by rw [expression, hpairs, List.replicate_succ, List.cons_append]; rfl,
      List.mem_cons_self⟩

/-- Where no keyword stands in front, none is dropped. -/
theorem drop_expression (spelling : Spelling) (schema : Json.Members) :
    dropCheckKeyword (spelling.expression schema) = spelling.expression schema := by
  obtain ⟨c, cs, hstart, hc⟩ := spelling.dropWhile_expression schema
  have hnone : afterLetters checkLetters (c :: cs) = none := by
    have hletter : c ≠ 'C' ∧ c ≠ 'c' := by
      clear hstart
      revert c
      decide
    simp [afterLetters, checkLetters, hletter]
  simp [dropCheckKeyword, hstart, hnone]

/-- Blanks may be left of what stands in front of the expression. -/
theorem drop_front (spelling : Spelling) (schema : Json.Members) :
    ∃ gap : Gap, dropCheckKeyword (spelling.front ++ spelling.expression schema) =
      gap.val ++ spelling.expression schema := by
  cases hkeyword : spelling.keyword with
  | none => exact ⟨⟨[], by simp⟩, by simp [front, hkeyword, drop_expression]⟩
  | some keyword => exact ⟨keyword.behind, by simpa [front, hkeyword] using keyword.drop _⟩

/-- Without the blanks at its ends a check is one that may be written, too. -/
theorem trimBlanks_expression (spelling : Spelling) (schema : Json.Members) (gap : Gap) :
    ∃ trimmed : Spelling, Text.trimBlanks (gap.val ++ spelling.expression schema) =
      trimmed.expression schema := by
  cases hpairs : spelling.pairs with
  | zero =>
    have hbefore : ∀ c ∈ gap.val ++ spelling.opening.val, Text.isBlank c = true :=
      List.forall_mem_append.mpr ⟨gap.property, spelling.opening.property⟩
    have hfirst := spelling.isBlank_head_call schema []
    rw [List.append_nil] at hfirst
    have htrim := Text.trimBlanks_append hbefore spelling.closing.property
      (fun hnil => by simpa [hnil] using spelling.getLast?_call schema) hfirst
      (by rw [getLast?_call]; rintro _ ⟨⟩; decide)
    refine ⟨{ spelling with opening := ⟨[], by simp⟩, closing := ⟨[], by simp⟩ }, ?_⟩
    simpa [expression, hpairs, call] using htrim
  | succ pairs =>
    obtain ⟨inside, hinside⟩ : ∃ inside, spelling.expression schema = '(' :: (inside ++ [')']) :=
      ⟨_, by
        rw [expression, hpairs, List.replicate_succ, List.replicate_succ']
        simp only [List.cons_append, ← List.append_assoc]
        rfl⟩
    have htrim : Text.trimBlanks (gap.val ++ (spelling.expression schema ++ [])) =
        spelling.expression schema :=
      Text.trimBlanks_append gap.property (by simp) (by simp [hinside])
        (by rw [hinside, List.head?_cons]; rintro _ ⟨⟩; decide)
        (by rw [hinside, ← List.cons_append, List.getLast?_concat]; rintro _ ⟨⟩; decide)
    rw [List.append_nil] at htrim
    exact ⟨spelling, htrim⟩

/-! ### What is read in a check -/

theorem map_lowercase_defaultFunctions :
    defaultFunctions.map Text.lowercase = defaultFunctions := by
  decide +kernel

theorem mentions_of_infix {function : String} (hdefault : function.toLower ∈ defaultFunctions)
    {expression : List Char} (h : function.toList <:+: expression) :
    mentions (defaultFunctions.map Text.lowercase) expression = true := by
  have hname (c : Char) (hc : c ∈ function.toList) :=
    Text.isIdentifierCharacter_of_isNameCharacter (isNameCharacter_of_default hdefault c hc)
  have hsmall := Text.lowercase_infix (fun c hc => (Text.smallLetter_eq_toLower (hname c hc)).2) h
  rw [Text.lowercase_name hname] at hsmall
  rw [mentions, map_lowercase_defaultFunctions, List.any_eq_true]
  exact ⟨_, hdefault, Text.occursIn_iff_infix.mpr hsmall⟩

/-- A check names one of the functions that are looked for. -/
theorem mentions_expression (spelling : Spelling) (schema : Json.Members) :
    mentions (defaultFunctions.map Text.lowercase) (spelling.expression schema) = true := by
  have hname : spelling.function.toList <:+: spelling.expression schema :=
    ⟨List.replicate spelling.pairs '(' ++ spelling.opening.val, _, by
      rw [expression, call]
      simp only [List.append_assoc]
      rfl⟩
  exact mentions_of_infix spelling.isDefault hname

theorem schemaOf_expression [Text.HalfBlock] {schema : Json.Members}
    (hschema : Json.Exact Json.digitLimit (.object schema)) (spelling : Spelling) :
    schemaOf (defaultFunctions.map Text.lowercase) (spelling.expression schema) =
      .ok (.ok schema) := by
  have hfunction : defaultFunctions.contains (Text.lowercase spelling.function) = true := by
    rw [Text.lowercase_name fun c hc =>
      Text.isIdentifierCharacter_of_isNameCharacter (spelling.isNameCharacter_of_mem c hc)]
    simpa using spelling.isDefault
  have hliteral (content : String) : literalOf (some (spelling.marking.shape content)) =
      some content := by
    cases spelling.marking <;> rfl
  rw [schemaOf, parse_expression]
  simp only [Sql.stripped_enclosed, Sql.Shape.stripped, map_lowercase_defaultFunctions,
    hfunction, hliteral, Json.load_print hschema, if_true]

end Spelling

theorem Spelling.write_ne_empty (spelling : Spelling) (schema : Json.Members) :
    spelling.write schema ≠ "" := by
  obtain ⟨c, cs, hstart, -⟩ := spelling.dropWhile_expression schema
  have hne : spelling.expression schema ≠ [] := by
    intro hnil
    simp [hnil] at hstart
  simpa [write] using fun _ => hne

/-- Reading a check undoes writing it: the schema comes back with its members in order, and
    nothing is noted. -/
theorem extractFrom_write [Text.HalfBlock] {schema : Json.Members}
    (hschema : Json.Exact Json.digitLimit (.object schema)) (spelling : Spelling) (subject : Json) :
    extractFrom defaultFunctions subject (.text (spelling.write schema)) =
      { trace := [], outcome := .ok (some schema) } := by
  obtain ⟨gap, hfront⟩ := spelling.drop_front schema
  obtain ⟨trimmed, htrim⟩ := spelling.trimBlanks_expression schema gap
  have hexpression : expressionOf (spelling.write schema) = trimmed.expression schema := by
    rw [expressionOf, Spelling.write, String.toList_ofList, hfront, htrim]
  have htruthy : (Json.text (spelling.write schema)).isTruthy = true := by
    simpa [Json.isTruthy] using spelling.write_ne_empty schema
  simp only [extractFrom, htruthy, if_true, extract, hexpression, trimmed.mentions_expression,
    trimmed.schemaOf_expression hschema]
  rfl

def noteSchema : Json.Members :=
  [("title", .text "it's -- a \"note\""), ("required", .array [.text "size"]),
    ("properties", .object [("size", .object [("minimum", .int (-3)), ("default", .null)])])]

def noteCheck : Spelling :=
  { keyword := some
      { before := ⟨[' '], by decide⟩
        word := "Check"
        behind := ⟨['\n', ' '], by decide⟩
        isCheck := by decide +kernel
        isSeparated := by decide }
    pairs := 2
    opening := ⟨[], by decide⟩
    closing := ⟨[], by decide⟩
    function := "JSONB_matches_schema"
    marking := .jsonb
    gap := ⟨[' '], by decide⟩
    column := "note (text)"
    isDefault := by decide +kernel
    isNamed := by decide
    isUnquoted := by decide }

/-- Quotes of both kinds and what would be a comment elsewhere are kept. -/
theorem extractFrom_noteCheck :
    Json.Exact Json.digitLimit (.object noteSchema) ∧
      noteCheck.write noteSchema = " Check\n ((JSONB_matches_schema('\x7b\"title\": " ++
        "\"it''s -- a \\\"note\\\"\", \"required\": [\"size\"], \"properties\": \x7b\"size\": " ++
        "\x7b\"minimum\": -3, \"default\": null\x7d\x7d\x7d'::jsonb, \"note (text)\")))" ∧
      extractFrom defaultFunctions (.text "note") (.text (noteCheck.write noteSchema)) =
        { trace := [], outcome := .ok (some noteSchema) } := by
  have hsize : Json.Exact Json.digitLimit (.object [("minimum", .int (-3)), ("default", .null)]) :=
    .object (by decide) (by simpa using ⟨.int _ (by decide), .null⟩)
  have hproperties : Json.Exact Json.digitLimit (.object [("size", .object [("minimum", .int (-3)),
      ("default", .null)])]) := .object (by decide) (by simpa using hsize)
  have hrequired : Json.Exact Json.digitLimit (.array [.text "size"]) :=
    .array (by simpa using .text _)
  have hschema : Json.Exact Json.digitLimit (.object noteSchema) :=
    .object (by decide) (by simpa [noteSchema] using ⟨.text _, hrequired, hproperties⟩)
  exact ⟨hschema, by decide +kernel, extractFrom_write hschema noteCheck (.text "note")⟩

end DartModels.Constraint
