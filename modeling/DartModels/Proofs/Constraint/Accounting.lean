import DartModels.Proofs.Constraint.Acceptance
import DartModels.Proofs.Sql.Placement

namespace DartModels.Constraint

/-- An expression names one of some functions, whatever the case of the letters. -/
def Names (functions : List String) (expression : List Char) : Prop :=
  ∃ function ∈ functions, (Text.lowercase function).toList <:+: Text.lowercaseAfter [] expression

theorem mentions_iff_names {functions : List String} {expression : List Char} :
    mentions (functions.map Text.lowercase) expression = true ↔ Names functions expression := by
  simp [mentions, Names, Text.occursIn_iff_infix]

/-- Functions whose names are identifiers. -/
def AreIdentifiers (functions : List String) : Prop :=
  ∀ function ∈ functions, ∀ c ∈ function.toList, Text.isIdentifierCharacter c = true

instance (functions : List String) : Decidable (AreIdentifiers functions) :=
  inferInstanceAs (Decidable (∀ function ∈ functions, ∀ c ∈ function.toList,
    Text.isIdentifierCharacter c = true))

/-- A name of a function, in any case, needs no quotes. -/
theorem isSimpleName_of_lowercase {functions : List String} (hfunctions : AreIdentifiers functions)
    {name : String} (hname : Text.lowercase name ∈ functions.map Text.lowercase) :
    (∀ c ∈ name.toList, c ≠ 'Σ' ∧ c ≠ 'İ') ∧ Sql.IsSimpleName name := by
  obtain ⟨function, hmem, hsmall⟩ := List.mem_map.mp hname
  have hletters := Text.smallLetter_of_lowercase_eq (hfunctions function hmem) hsmall.symm
  have hspecial : ∀ c ∈ ['"', ' ', '-'],
      Text.isIdentifierCharacter (Text.smallLetter c) = false := by
    decide +kernel
  refine ⟨fun c hc => (hletters c hc).1, fun c hc hquote => ?_⟩
  exact Bool.false_ne_true ((hspecial c hquote).symm.trans (hletters c hc).2)

/-- A text is looked at only in an expression that names one of the functions. -/
theorem names_of_hasSchemaText {functions : List String} (hfunctions : AreIdentifiers functions)
    {expression : List Char} {content : String}
    (h : HasSchemaText (functions.map Text.lowercase) expression content) :
    Names functions expression := by
  obtain ⟨shape, name, first, hparse, hcall, hname, hcontent⟩ := h
  obtain ⟨hplain, hsimple⟩ := isSimpleName_of_lowercase hfunctions hname
  have hinfix : name.toList <:+: expression :=
    Sql.name_infix_of_parse hparse hcall (by simp [hcontent]) hsimple
  obtain ⟨function, hmem, hsmall⟩ := List.mem_map.mp hname
  exact ⟨function, hmem, hsmall ▸ Text.lowercase_infix hplain hinfix⟩

/-- What may come of a check. -/
inductive Account where
  /-- It holds a schema. -/
  | schema
  /-- It names one of the functions, but holds no schema. -/
  | unreadable
  /-- It is about something else. -/
  | unrelated
  /-- It names one of the functions, and what should be a schema holds a number of too many
      digits. -/
  | tooManyDigits

theorem CheckFault.says_diagnostic (fault : CheckFault) (check : String) (subject : Json) :
    (fault.diagnostic check subject).subject = subject ∧
      ((fault.diagnostic check subject).code = "check_unreadable" ∨
        (fault.diagnostic check subject).code = "json_schema_invalid") := by
  cases fault with
  | unreadable | notSingleCall | notLiteral => exact ⟨rfl, .inl rfl⟩
  | notJson | notObject => exact ⟨rfl, .inr rfl⟩

section

variable [Text.HalfBlock]

/-- What is given and noted for a check of an expression, and what it names then. -/
def Account.Covers (functions : List String) (subject : Json) (expression : List Char)
    (result : Traced Diagnostic Fault (Option Json.Members)) : Account → Prop
  | .schema => ∃ members, result = { trace := [], outcome := .ok (some members) }
  | .unreadable =>
    (∃ note, result = { trace := [note], outcome := .ok none } ∧ note.subject = subject ∧
      (note.code = "check_unreadable" ∨ note.code = "json_schema_invalid")) ∧
    Names functions expression
  | .unrelated =>
    result = { trace := [], outcome := .ok none } ∧
      (expression = [] ∨ ¬ Names functions expression)
  | .tooManyDigits =>
    result = { trace := [], outcome := .error .tooManyDigits } ∧ Names functions expression ∧
      ∃ content, HasSchemaText (functions.map Text.lowercase) expression content ∧
        Json.load content = .error .tooManyDigits

/-- The account that what is given and noted tells of. -/
def Account.of (result : Traced Diagnostic Fault (Option Json.Members)) : Account :=
  match result.trace, result.outcome with
  | _, .ok (some _) => .schema
  | _ :: _, .ok none => .unreadable
  | [], .ok none => .unrelated
  | _, .error _ => .tooManyDigits

theorem Account.Covers.of_eq {functions : List String} {subject : Json} {expression : List Char}
    {result : Traced Diagnostic Fault (Option Json.Members)} {account : Account}
    (h : account.Covers functions subject expression result) : Account.of result = account := by
  cases account with
  | schema =>
    obtain ⟨members, rfl⟩ := h
    rfl
  | unreadable =>
    obtain ⟨⟨note, rfl, -⟩, -⟩ := h
    rfl
  | unrelated =>
    obtain ⟨rfl, -⟩ := h
    rfl
  | tooManyDigits =>
    obtain ⟨rfl, -⟩ := h
    rfl

theorem exists_account (functions : List String) (subject : Json) (check : String) :
    ∃ account : Account, account.Covers functions subject (expressionOf check)
      (extractFrom functions subject (.text check)) := by
  rw [extractFrom_eq]
  by_cases hcheck : check = ""
  · subst hcheck
    exact ⟨.unrelated, by split <;> rfl, .inl rfl⟩
  · split
    · next hmentions =>
      have hnames := mentions_iff_names.mp hmentions
      rw [extractAnyway_eq hcheck]
      rcases hschema : schemaOf (functions.map Text.lowercase) (expressionOf check) with
        fault | (fault | members)
      · obtain ⟨rfl, hlong⟩ := schemaOf_eq_error_iff.mp hschema
        exact ⟨.tooManyDigits, rfl, hnames, hlong⟩
      · exact ⟨.unreadable, ⟨_, rfl, fault.says_diagnostic check subject⟩, hnames⟩
      · exact ⟨.schema, members, rfl⟩
    · next hnames => exact ⟨.unrelated, rfl, .inr fun h => hnames (mentions_iff_names.mpr h)⟩

/-- A number of too many digits in place of a schema stops the run. -/
theorem covers_tooManyDigits {function : String} (hdefault : function.toLower ∈ defaultFunctions)
    {n : Int} (hdigits : Json.hasFewDigits Json.digitLimit (.int n) = false) (subject : Json) :
    let check := callOf function (Json.writeInt n)
    Account.tooManyDigits.Covers defaultFunctions subject (expressionOf check)
      (extractFrom defaultFunctions subject (.text check)) := by
  have htext := hasSchemaText_callOf hdefault (Json.writeInt n)
  have hlong := Json.load_writeInt hdigits
  have hnames := names_of_hasSchemaText (by decide) htext
  refine ⟨?_, hnames, _, htext, hlong⟩
  rw [extractFrom_eq, if_pos (mentions_iff_names.mpr hnames),
    extractAnyway_eq (expressionOf_callOf hdefault _).1,
    schemaOf_eq_error_iff.mpr ⟨rfl, _, htext, hlong⟩]

/-- A check is accounted for in one way, and looking for the names first leaves out no schema. A
    number of too many digits in place of a schema, or in it, is neither given nor noted: it stops
    the run. -/
theorem extractFrom_accounted {functions : List String} (hfunctions : AreIdentifiers functions)
    (subject : Json) (check : String) :
    (∃! account : Account, account.Covers functions subject (expressionOf check)
        (extractFrom functions subject (.text check))) ∧
      ∀ trace members,
        extractAnyway functions subject (.text check) = { trace, outcome := .ok (some members) } ↔
          extractFrom functions subject (.text check) =
            { trace, outcome := .ok (some members) } := by
  constructor
  · obtain ⟨account, haccount⟩ := exists_account functions subject check
    exact ⟨account, haccount, fun other hother => hother.of_eq.symm.trans haccount.of_eq⟩
  · intro trace members
    rw [extractFrom_eq]
    split
    · rfl
    · next hnames =>
      refine ⟨fun h => ?_, nofun⟩
      obtain ⟨content, htext, -⟩ := schemaOf_eq_ok_iff.mp (schemaOf_of_extractAnyway h).2
      exact absurd (mentions_iff_names.mpr (names_of_hasSchemaText hfunctions htext)) hnames

end

/-- A call whose argument is a number of one digit too many. -/
def longArgument : String :=
  callOf "jsonb_matches_schema" (Json.writeInt (Json.longerThan 4300))

/-- One argument may give a schema, and may stop the run. -/
theorem extractFrom_accounted_singleArgument :
    AreIdentifiers defaultFunctions ∧
      (∃! account : Account, account.Covers defaultFunctions (.text "note")
          (expressionOf singleArgument)
          (extractFrom defaultFunctions (.text "note") (.text singleArgument))) ∧
        (∀ trace members,
          extractAnyway defaultFunctions (.text "note") (.text singleArgument) =
              { trace, outcome := .ok (some members) } ↔
            extractFrom defaultFunctions (.text "note") (.text singleArgument) =
              { trace, outcome := .ok (some members) }) ∧
        ∀ account : Account, account.Covers defaultFunctions (.text "note")
            (expressionOf longArgument)
            (extractFrom defaultFunctions (.text "note") (.text longArgument)) →
          account = .tooManyDigits := by
  have hfunctions : AreIdentifiers defaultFunctions := by decide
  have hdefault : "jsonb_matches_schema".toLower ∈ defaultFunctions := by decide +kernel
  have hdigits : Json.hasFewDigits Json.digitLimit (.int (Json.longerThan 4300)) = false :=
    Json.hasFewDigits_longerThan rfl (by decide)
  have hlong := covers_tooManyDigits hdefault hdigits (.text "note")
  obtain ⟨hone, hshort⟩ := extractFrom_accounted hfunctions (.text "note") singleArgument
  exact ⟨hfunctions, hone, hshort, fun account haccount => haccount.of_eq.symm.trans hlong.of_eq⟩

end DartModels.Constraint
