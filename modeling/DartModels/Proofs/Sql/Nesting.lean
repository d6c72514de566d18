import DartModels.Proofs.Sql.Call
import DartModels.Proofs.Sql.Lexing
import DartModels.Sql.Parse
import Mathlib.Logic.Function.Iterate

namespace DartModels.Sql

open Reading

variable {read : Reader} {token : Token} {tokens rest : List Token} {shape : Shape}

/-- What starts an expression starts no query. -/
theorem query_opens (h : Opens token) :
    query read .alone (token :: tokens) = .ok (none, token :: tokens) := by
  have hkeyword (word : String) (hword : word ∈ ["WITH", "FROM", "SELECT", "VALUES", "DESCRIBE"]) :
      keyword word (token :: tokens) = .ok (false, token :: tokens) := by
    refine keyword_opens h word ?_ tokens
    revert word
    decide
  simp [query, bareQuery, hkeyword]

/-- The shapes that parentheses only surround. -/
def Shape.isValue : Shape → Bool
  | .query | .rows | .aggregate => false
  | _ => true

theorem parenthesized_reads (hopens : Opens token) (hvalue : shape.isValue = true) (depth : Nat)
    (h : Reads (expression (Sql.read (depth + 1))) (token :: tokens) shape) (rest : List Token) :
    parenthesized (Sql.read (depth + 2)) (token :: tokens ++ .mark ")" :: rest) =
      .ok (.parenthesized shape, rest) := by
  have hquery : Sql.read (depth + 2) (.query .alone) (token :: tokens ++ .mark ")" :: rest) =
      .ok (none, token :: tokens ++ .mark ")" :: rest) := query_opens hopens
  have hitems : items (Sql.read (depth + 2) .expression) (token :: tokens ++ .mark ")" :: rest) =
      .ok (([shape], false), .mark ")" :: rest) :=
    items_reads h (List.forall_mem_nil _) rest
  simp only [parenthesized, bind_run, hquery, ok_bind, hitems]
  cases shape <;> simp_all [Shape.isValue, expectMark_run]

/-- A pair of parentheses takes one more level. -/
theorem reads_parenthesized (hopens : Opens token) (hvalue : shape.isValue = true) (depth : Nat)
    (h : Reads (expression (Sql.read (depth + 1))) (token :: tokens) shape) :
    Reads (expression (Sql.read (depth + 2))) (.mark "(" :: (token :: tokens ++ [.mark ")"]))
      (.parenthesized shape) := by
  intro rest hrest
  have hinner := parenthesized_reads hopens hvalue depth h rest
  have hprimary : primary (Sql.read (depth + 2))
      (.mark "(" :: (token :: tokens ++ .mark ")" :: rest)) =
        .ok (some (.parenthesized shape), rest) := by
    simp only [primary, bind_run, get_run, ok_bind, set_run, hinner, pure_run]
  have hcolumn : column (Sql.read (depth + 2))
      (.mark "(" :: (token :: tokens ++ .mark ")" :: rest)) =
        .ok (some (.parenthesized shape), rest) := by
    rw [column, bind_run, columnBase, bind_run, hprimary]
    simp [columnOperators_closed hrest]
  simpa using expression_of_column .parenthesis hrest (depth + 1) hcolumn

/-- Tokens in so many pairs of parentheses. -/
def enclosed (count : Nat) (tokens : List Token) : List Token :=
  List.replicate count (.mark "(") ++ (tokens ++ List.replicate count (.mark ")"))

theorem enclosed_succ (count : Nat) (tokens : List Token) :
    enclosed (count + 1) tokens = .mark "(" :: (enclosed count tokens ++ [.mark ")"]) := by
  simp [enclosed, List.replicate_succ, ← List.replicate_succ']

theorem enclosed_opens (hopens : Opens token) (count : Nat) (tokens : List Token) :
    ∃ first more, enclosed count (token :: tokens) = first :: more ∧ Opens first := by
  cases count with
  | zero => exact ⟨token, tokens, by simp [enclosed], hopens⟩
  | succ count => exact ⟨_, _, enclosed_succ count _, .parenthesis⟩

theorem isValue_enclosed (hvalue : shape.isValue = true) (count : Nat) :
    (Shape.parenthesized^[count] shape).isValue = true := by
  cases count with
  | zero => exact hvalue
  | succ count =>
    rw [Function.iterate_succ_apply']
    rfl

/-- Parentheses around an expression are read as such, however many there are. -/
theorem reads_enclosed (hopens : Opens token) (hvalue : shape.isValue = true) (depth : Nat)
    (h : Reads (expression (Sql.read (depth + 1))) (token :: tokens) shape) (count : Nat) :
    Reads (expression (Sql.read (depth + count + 1))) (enclosed count (token :: tokens))
      (Shape.parenthesized^[count] shape) := by
  induction count with
  | zero => simpa [enclosed] using h
  | succ count ih =>
    obtain ⟨first, more, htokens, hfirst⟩ := enclosed_opens hopens count tokens
    rw [htokens] at ih
    rw [enclosed_succ, htokens, Function.iterate_succ_apply']
    have hlevel : depth + (count + 1) + 1 = depth + count + 2 := by omega
    rw [hlevel]
    exact reads_parenthesized hfirst (isValue_enclosed hvalue count) (depth + count) ih

theorem stripped_enclosed (shape : Shape) (count : Nat) :
    (Shape.parenthesized^[count] shape).stripped = shape.stripped := by
  induction count with
  | zero => rfl
  | succ count ih => rw [Function.iterate_succ_apply', Shape.stripped, ih]

/-! ### Statements -/

theorem statement_opens (hopens : Opens token) :
    statement read (token :: tokens) = queryStatement read (token :: tokens) := by
  cases hopens with
  | @word spelling capitals hforeign =>
    have htruncate := hforeign.ne "TRUNCATE" (by decide)
    simp [statement, hforeign.command, htruncate, hforeign.statement]
  | _ => simp [statement]

/-- An expression that starts no statement is a statement by itself. -/
theorem statementShape_of_reads (hopens : Opens token) (hvalue : shape.isValue = true)
    {depth : Nat} (hdepth : depth + 2 = 8 * ((token :: tokens).length + 2))
    (h : Reads (expression (Sql.read depth)) (token :: tokens) shape) :
    statementShape (token :: tokens) = .ok (some shape) := by
  have hcommand : areCommand (token :: tokens) = false := by
    cases hopens with
    | @word spelling capitals hforeign =>
      have hif : capitals ≠ "IF" := fun heq => hforeign.isBare (heq ▸ by decide)
      simp [areCommand, Token.isOneOf, Token.isKeyword, hforeign.command, hif]
    | _ => simp [areCommand, Token.isOneOf, Token.isKeyword]
  have hread : Sql.read (depth + 1) .expression (token :: tokens) = .ok (some shape, []) := by
    have hexpression := h [] .nil
    rwa [List.append_nil] at hexpression
  have hclauses : shape.takesClauses = false := by
    cases shape <;> simp_all [Shape.isValue, Shape.takesClauses]
  have hstatement : Sql.read (depth + 2) .statement (token :: tokens) = .ok (some shape, []) := by
    change statement (Sql.read (depth + 1)) (token :: tokens) = _
    rw [statement_opens hopens]
    simp [queryStatement, hread, joinedQueries_closed .nil, hclauses]
  rw [statementShape, hcommand, ← hdepth, hstatement]
  rfl

/-- An expression that takes three levels is read in any number of parentheses, each of which
    brings the tokens for the level that it takes. -/
theorem statementShape_enclosed (hopens : Opens token) (hvalue : shape.isValue = true)
    (h : ∀ depth, Reads (expression (Sql.read (depth + 3))) (token :: tokens) shape)
    (count : Nat) :
    statementShape (enclosed count (token :: tokens)) =
      .ok (some (Shape.parenthesized^[count] shape)) := by
  obtain ⟨first, more, htokens, hfirst⟩ := enclosed_opens hopens count tokens
  have hlength : (first :: more).length = 2 * count + (token :: tokens).length := by
    rw [← htokens, enclosed, List.length_append, List.length_append, List.length_replicate,
      List.length_replicate]
    omega
  have hreads := reads_enclosed hopens hvalue (8 * ((first :: more).length + 2) - count - 3) (by
      have hdepth : 8 * ((first :: more).length + 2) - count - 3 + 1 =
          8 * ((first :: more).length + 2) - count - 5 + 3 := by omega
      rw [hdepth]
      exact h _) count
  rw [htokens] at hreads ⊢
  refine statementShape_of_reads hfirst (isValue_enclosed hvalue count) ?_ hreads
  omega

theorem chunks_of_notMem {placed : List Placed}
    (hsemicolon : ∀ part ∈ placed, part.token ≠ .mark ";") : chunks placed = [placed] := by
  induction placed with
  | nil => rfl
  | cons part placed ih =>
    have hrest := ih fun part hmem => hsemicolon part (List.mem_cons_of_mem _ hmem)
    simp [chunks, hsemicolon part List.mem_cons_self, hrest]

/-- A text of one statement without comments has the shape of its tokens. -/
theorem parse_of_lexes {cs : List Char} (h : Lexes cs tokens)
    (htokens : ∀ token ∈ tokens, token ≠ .mark ";" ∧ token ≠ .comment)
    (hshape : statementShape tokens = .ok (some shape)) : parse cs = .ok shape := by
  obtain ⟨placed, hread, rfl⟩ := h (cs.length + 1) (Nat.le_succ _)
  have hplaced (part : Placed) (hmem : part ∈ placed) := htokens _ (List.mem_map_of_mem hmem)
  have huncommented : placed.filter (·.token != .comment) = placed :=
    List.filter_eq_self.mpr fun part hmem => by simpa using (hplaced part hmem).2
  have hchunks : chunks placed = [placed] :=
    chunks_of_notMem fun part hmem => (hplaced part hmem).1
  simp [parse, tokens?, hread, huncommented, hchunks, hshape, Except.mapError]

end DartModels.Sql
