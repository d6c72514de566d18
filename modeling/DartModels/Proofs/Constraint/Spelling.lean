import DartModels.Constraint.SchemaCheck
import DartModels.Proofs.Json.RoundTrip
import DartModels.Proofs.Sql.Nesting
import DartModels.Proofs.Text.Blank
import DartModels.Proofs.Traced

namespace DartModels.Constraint

open Sql (Lexes Token)

/-- How the text of a schema is marked as JSON in a check. -/
inductive Marking where
  | plain
  | json
  | jsonb

namespace Marking

/-- The type behind a marked text. -/
def type? : Marking → Option String
  | .plain => none
  | .json => some "json"
  | .jsonb => some "jsonb"

/-- The mark behind the text of a schema. -/
def cast (marking : Marking) : List Char :=
  match marking.type? with
  | none => []
  | some type => ':' :: ':' :: type.toList

/-- The tokens of the mark. -/
def tokens (marking : Marking) : List Token :=
  match marking.type? with
  | none => []
  | some type => [.mark "::", Token.ofWord type]

end Marking

/-- Blanks, as many as there may be. -/
abbrev Gap := { gap : List Char // ∀ c ∈ gap, Text.isBlank c = true }

/-- The keyword of a check in some case, with the blanks in front of it and behind it. -/
structure Keyword where
  before : Gap
  word : String
  behind : Gap
  isCheck : word.toLower = "check"
  isSeparated : behind.val ≠ []

/-- A way to write the check that a column follows a schema. -/
structure Spelling where
  /-- The keyword in front, if there is one. -/
  keyword : Option Keyword
  /-- The pairs of parentheses around the call. -/
  pairs : Nat
  /-- The blanks between the parentheses and the call. -/
  opening : Gap
  closing : Gap
  function : String
  marking : Marking
  /-- The blanks behind the comma. -/
  gap : Gap
  column : String
  /-- The function is one of those that are looked for, in some case. -/
  isDefault : function.toLower ∈ defaultFunctions
  isNamed : column ≠ ""
  isUnquoted : '"' ∉ column.toList

namespace Spelling

/-- What stands in front of the expression. -/
def front (spelling : Spelling) : List Char :=
  match spelling.keyword with
  | none => []
  | some keyword => keyword.before.val ++ (keyword.word.toList ++ keyword.behind.val)

/-- The call for a schema, the text of which is written with all its single quotes doubled. -/
def call (spelling : Spelling) (schema : Json.Members) : List Char :=
  spelling.function.toList ++ ('(' :: '\'' ::
    (Sql.quotesDoubled '\'' (Json.write .oneLine 0 (.object schema)) ++ ('\'' ::
      (spelling.marking.cast ++ (',' :: (spelling.gap.val ++ ('"' :: (spelling.column.toList ++
        ['"', ')']))))))))

/-- The call in its parentheses. -/
def expression (spelling : Spelling) (schema : Json.Members) : List Char :=
  List.replicate spelling.pairs '(' ++ (spelling.opening.val ++ (spelling.call schema ++
    (spelling.closing.val ++ List.replicate spelling.pairs ')')))

/-- The check for a schema. -/
def write (spelling : Spelling) (schema : Json.Members) : String :=
  String.ofList (spelling.front ++ spelling.expression schema)

end Spelling

/-! ### The tokens of a check -/

variable {rest : List Char} {behind : List Token}

theorem exists_cons_of_head {name : String}
    (hstart : name.toList.head?.map Char.toLower = some 'j') :
    ∃ c cs, name.toList = c :: cs ∧ c ∈ ['j', 'J'] := by
  cases hname : name.toList with
  | nil => simp [hname] at hstart
  | cons c cs =>
    have hsmall : c.toLower = 'j' := by simpa [hname] using hstart
    exact ⟨c, cs, rfl, by simpa using Text.eq_or_eq_toUpper_of_toLower (by decide) hsmall⟩

/-- A name of small or capital letters that starts with a J is one word. -/
theorem lexes_word (name : String) (hname : ∀ c ∈ name.toList, Text.isNameCharacter c = true)
    (hstart : name.toList.head?.map Char.toLower = some 'j') {next : Char}
    (hnext : next ∈ ['(', ',']) (h : Lexes (next :: rest) behind) :
    Lexes (name.toList ++ next :: rest) (Token.ofWord name :: behind) := by
  obtain ⟨c, cs, hcs, hcase⟩ := exists_cons_of_head hstart
  have hkind : (∀ mark ∈ Sql.longMarks, mark.toList.head?.any (· != c) = true) ∧
      ∀ word ∈ Sql.hyphenKeyword.toList :: Sql.compoundKeywords.map Prod.fst,
        word ≠ [] ∧ (Sql.capitalsOf c).isPrefixOf word = false := by
    clear hcs
    revert c
    decide
  have hend : Sql.continuesWord next = false ∧ next ≠ '\'' := by
    clear h
    revert next
    decide
  rw [hcs] at hname ⊢
  have hread : Sql.readToken false (c :: (cs ++ next :: rest)) =
      some (Token.ofWord (String.ofList (c :: cs)), next :: rest) :=
    Sql.readToken_word hname hkind.1 (Sql.compound?_eq_none hkind.2) (by simpa using hend.1)
      (by simpa using hend.2)
  rw [← hcs, String.ofList_toList] at hread
  exact .cons (Sql.isNameCharacter_spec (hname c List.mem_cons_self)).2.2.1 rfl hread (by simp) h

theorem lexes_cast (marking : Marking) (h : Lexes (',' :: rest) behind) :
    Lexes (marking.cast ++ ',' :: rest) (marking.tokens ++ behind) := by
  cases marking with
  | plain => exact h
  | json => exact .cast (lexes_word "json" (by decide) (by decide) (by decide) h)
  | jsonb => exact .cast (lexes_word "jsonb" (by decide) (by decide) (by decide) h)

theorem isNameCharacter_of_default {function : String}
    (hdefault : function.toLower ∈ defaultFunctions) :
    ∀ c ∈ function.toList, Text.isNameCharacter c = true := by
  have hnames : ∀ name ∈ defaultFunctions, ∀ c ∈ name.toList, Text.isNameCharacter c = true := by
    decide
  exact Text.isNameCharacter_of_mem (hnames _ hdefault)

theorem head_of_default {function : String} (hdefault : function.toLower ∈ defaultFunctions) :
    function.toList.head?.map Char.toLower = some 'j' := by
  have hnames : ∀ name ∈ defaultFunctions, name.toList.head? = some 'j' := by
    decide
  have hhead := hnames _ hdefault
  rwa [Text.toList_toLower, List.head?_map] at hhead

namespace Spelling

theorem isNameCharacter_of_mem (spelling : Spelling) :
    ∀ c ∈ spelling.function.toList, Text.isNameCharacter c = true :=
  isNameCharacter_of_default spelling.isDefault

theorem head_function (spelling : Spelling) :
    spelling.function.toList.head?.map Char.toLower = some 'j' :=
  head_of_default spelling.isDefault

/-- The tokens of the call for a schema. -/
def tokens (spelling : Spelling) (schema : Json.Members) : List Token :=
  Sql.callTokens spelling.function
    (.text (Json.print .oneLine (.object schema)) :: spelling.marking.tokens)
    [([.quoted spelling.column], .name spelling.column false)]

end Spelling

theorem lexes_call (spelling : Spelling) (schema : Json.Members) (h : Lexes rest behind) :
    Lexes (spelling.call schema ++ rest) (spelling.tokens schema ++ behind) := by
  have hcolumn : Lexes ('"' :: (spelling.column.toList ++ '"' :: ')' :: rest))
      (.quoted spelling.column :: .mark ")" :: behind) :=
    .quoted spelling.isUnquoted (by simp) (.mark (by decide) h)
  have hcast := lexes_cast spelling.marking
    (.mark (by decide) (hcolumn.blanks spelling.gap.property))
  have htext := hcast.text (Json.write .oneLine 0 (.object schema))
    (by cases spelling.marking <;> simp [Marking.cast, Marking.type?])
  have hcall := lexes_word spelling.function spelling.isNameCharacter_of_mem
    spelling.head_function (by decide) (htext.mark (c := '(') (by decide))
  simpa [Spelling.call, Spelling.tokens, Sql.callTokens, Sql.Reading.behindCommas, Json.print]
    using hcall

theorem lexes_expression (spelling : Spelling) (schema : Json.Members) :
    Lexes (spelling.expression schema)
      (Sql.enclosed spelling.pairs (spelling.tokens schema)) := by
  have hclosing : Lexes (List.replicate spelling.pairs ')')
      (List.replicate spelling.pairs (.mark ")")) := by
    simpa using Lexes.nil.marks (c := ')') (by decide) spelling.pairs
  have hcall := lexes_call spelling schema (hclosing.blanks spelling.closing.property)
  exact (hcall.blanks spelling.opening.property).marks (c := '(') (by decide) spelling.pairs

theorem inCapitals_name {name : String}
    (hname : ∀ c ∈ name.toList, Text.isNameCharacter c = true) :
    Sql.inCapitals name = name.toLower.toUpper := by
  have hletter {c : Char} (hc : Text.isNameCharacter c = true) :
      Sql.capitalsOf c = [c.toLower.toUpper] :=
    Text.isNameCharacter_all (fun c => Sql.capitalsOf c = [c.toLower.toUpper])
      (by decide) hc
  apply String.toList_inj.mp
  rw [Sql.inCapitals, String.toList_ofList, Text.toList_toUpper, Text.toList_toLower,
    List.map_map, List.flatMap_congr fun c hc => hletter (hname c hc)]
  exact List.map_eq_flatMap.symm

/-- The language does not define the functions that are looked for. -/
theorem isForeign_of_default {function : String} (hdefault : function.toLower ∈ defaultFunctions) :
    Sql.IsForeign (Sql.inCapitals function) := by
  have hnames : ∀ name ∈ defaultFunctions,
      name.toUpper ∈ ["JSONB_MATCHES_SCHEMA", "JSON_MATCHES_SCHEMA"] := by
    decide +kernel
  have hforeign : ∀ name ∈ ["JSONB_MATCHES_SCHEMA", "JSON_MATCHES_SCHEMA"], Sql.IsForeign name := by
    intro name hname
    obtain rfl | rfl : name = "JSONB_MATCHES_SCHEMA" ∨ name = "JSON_MATCHES_SCHEMA" := by
      simpa using hname
    all_goals exact
      { isPlain := by decide +kernel
        isBare := by decide +kernel
        command := by decide +kernel
        statement := fun _ => rfl
        special := fun _ => rfl
        undefined := by decide +kernel }
  rw [inCapitals_name (isNameCharacter_of_default hdefault)]
  exact hforeign _ (hnames _ hdefault)

/-- The shape of the text of a schema. -/
def Marking.shape (marking : Marking) (content : String) : Sql.Shape :=
  match marking.type? with
  | none => .literal content
  | some _ => .json content

theorem reads_schema (marking : Marking) (content : String) (depth : Nat) :
    Sql.Reading.Reads (Sql.argument (Sql.read (depth + 2)) true)
      (.text content :: marking.tokens) (marking.shape content) := by
  have hcapitals : Sql.inCapitals "json" ∈ Sql.jsonTypes ∧
      Sql.inCapitals "jsonb" ∈ Sql.jsonTypes := by
    decide
  cases marking with
  | plain => exact Sql.reads_text depth content
  | json => exact Sql.reads_cast depth content hcapitals.1
  | jsonb => exact Sql.reads_cast depth content hcapitals.2

/-- Nothing in a check ends a statement or is a comment, whatever its schema says. -/
theorem isStatement_tokens (spelling : Spelling) (schema : Json.Members) :
    ∀ token ∈ Sql.enclosed spelling.pairs (spelling.tokens schema),
      token ≠ .mark ";" ∧ token ≠ .comment := by
  have hmarking : ∀ token ∈ spelling.marking.tokens, token ≠ .mark ";" ∧ token ≠ .comment := by
    cases spelling.marking <;> decide
  simp only [Sql.enclosed, Spelling.tokens, Sql.callTokens, Sql.Reading.behindCommas,
    List.flatMap_singleton, List.forall_mem_append, List.forall_mem_cons]
  simpa [Token.ofWord] using hmarking

theorem parse_expression (spelling : Spelling) (schema : Json.Members) :
    Sql.parse (spelling.expression schema) =
      .ok (Sql.Shape.parenthesized^[spelling.pairs] (.call spelling.function
        (some (spelling.marking.shape (Json.print .oneLine (.object schema)))))) := by
  have hforeign := isForeign_of_default spelling.isDefault
  have hopens : Sql.Opens (Token.ofWord spelling.function) := .word _ hforeign
  have hcolumn (depth : Nat) : ∀ next ∈ [([Token.quoted spelling.column],
      Sql.Shape.name spelling.column false)],
        Sql.Reading.Reads (Sql.argument (Sql.read (depth + 2)) true) next.1 next.2 := by
    simpa using Sql.reads_quoted depth spelling.column
  have hcall (depth : Nat) := Sql.reads_call hforeign depth
    (reads_schema spelling.marking (Json.print .oneLine (.object schema)) depth) (hcolumn depth)
  have hshape := Sql.statementShape_enclosed hopens rfl hcall spelling.pairs
  exact Sql.parse_of_lexes (lexes_expression spelling schema) (isStatement_tokens spelling schema)
    hshape

end DartModels.Constraint
