import DartModels.Proofs.Sql.Operators
import DartModels.Sql.Parse

namespace DartModels.Sql

open Reading

section

variable {read : Reader}

/-! ### Types -/

/-- Each of some items is dull. -/
def AllDull (found : List Shape) : Prop :=
  ∀ shape ∈ found, shape.IsDull

theorem list_yields {item : Reading (Option Shape)} (hitem : Yields item NoneOrDull) :
    Yields (list item) AllDull := by
  have htoList {found : Option Shape} (h : NoneOrDull found) : AllDull found.toList := by
    simpa [NoneOrDull, AllDull] using h
  have hitems : Yields (items item) fun found => AllDull found.1 := by
    refine .bindOf hitem fun first hfirst tokens => ?_
    refine iterate_keeps (fun found ahead hfound => ?_) (htoList hfirst)
    refine .ifTaken (fun _ rest _ _ => ?_) (.pure hfound)
    exact .bind (hitem rest) fun next _ hnext =>
      .pure (List.forall_mem_append.mpr ⟨hfound, htoList hnext⟩)
  exact .bindOf hitems fun _ h => .pure h

theorem mapTypes_yields (mayBeCall : Bool) : Yields (mapTypes read mayBeCall) NoneOrDull := by
  refine .bind fun _ => .bind fun _ => .ite (.pure noneOrDull_none) ?_
  exact .bind fun _ => .bind fun _ => .pure (by split <;> simp [NoneOrDull, Shape.isDull_dataType])

theorem typeMarks_yields (use : TypeUse) (type : Option String) (details : TypeDetails) :
    Yields (typeMarks read use type details) NoneOrDull := by
  have hnone : Yields (pure (none : Option Shape)) NoneOrDull := .pure noneOrDull_none
  unfold typeMarks
  extract_lets marked
  have hmarked : Yields (marked ()) NoneOrDull := by
    refine .bind fun _ => .bind fun _ => .ite (.pure noneOrDull_other) ?_
    exact .pure (Shape.isDull_dataType _ _).isDulled.noneOrDull
  split
  · extract_lets signed
    have hsigned : Yields (signed ()) NoneOrDull := .ite hnone hmarked
    exact .ite (.bind fun _ => .ite (.ite (.bind fun _ => hsigned) hsigned) hsigned) hsigned
  · exact hmarked

theorem typeDetails_yields (use : TypeUse) (type : Option String) (hasParentheses : Bool)
    (parameters : List Shape) :
    Yields (typeDetails read use type hasParentheses parameters) NoneOrDull := by
  unfold typeDetails
  extract_lets isOf isRecord behindElements
  have helements (hasElements : Bool) : Yields (behindElements hasElements) NoneOrDull := by
    unfold behindElements
    extract_lets behindValues
    have hvalues (hasValues : Bool) : Yields (behindValues hasValues) NoneOrDull := by
      unfold behindValues
      extract_lets behindZone
      have hzone (hasZone : Bool) : Yields (behindZone hasZone) NoneOrDull := by
        unfold behindZone
        extract_lets marks called
        have hmarks : Yields (marks ()) NoneOrDull := typeMarks_yields _ _ _
        have hcalled : Yields (called ()) NoneOrDull :=
          .ite (.bind fun _ => .ite (.pure noneOrDull_none) hmarks) hmarks
        exact .ite (.bind fun _ => hcalled) hcalled
      exact .ite (.bind hzone) (.bind hzone)
    exact .ite (.bind hvalues) (.bind hvalues)
  exact .ite (.bind helements) (.bind helements)

theorem typeParameters_yields {mayBeCall : Bool}
    (hread : Yields (read (.dataType mayBeCall)) NoneOrDull) (type : Option String) :
    Yields (typeParameters read mayBeCall type) fun parameters =>
      type = some "NULLABLE" → AllDull parameters := by
  by_cases hnullable : type = some "NULLABLE"
  · subst hnullable
    have hparameters : typeParameters read mayBeCall (some "NULLABLE") =
        list (read (.dataType mayBeCall)) := by
      simp [typeParameters, recordTypes, nestedTypes]
    exact hparameters ▸ (list_yields hread).imp fun _ hdull _ => hdull
  · exact fun tokens => (Gives.any _ tokens).imp fun _ _ _ => fun h => absurd h hnullable

/-- The only type that is given as it is read inside another one is dull, too. -/
theorem typeBehind_yields {use : TypeUse}
    (hread : Yields (read (.dataType use.mayBeCall)) NoneOrDull) (type : Option String) :
    Yields (typeBehind read use type) NoneOrDull := by
  unfold typeBehind
  extract_lets behindName
  have hname : Yields (behindName ()) NoneOrDull := by
    refine .bind fun hasParentheses => ?_
    extract_lets behindParameters
    have hparameters (parameters : List Shape)
        (hdull : type = some "NULLABLE" → AllDull parameters) :
        Yields (behindParameters parameters) NoneOrDull := by
      unfold behindParameters
      extract_lets details closed
      have hdetails : Yields (details ()) NoneOrDull := typeDetails_yields _ _ _ _
      have hclosed : Yields (closed ()) NoneOrDull :=
        .ite (.bind fun _ => .ite (.pure noneOrDull_none) hdetails) hdetails
      split
      · next htype =>
        split
        · refine .bind fun _ => .pure (Shape.IsDull.isDulled ?_).noneOrDull
          simpa [AllDull] using hdull htype
        · exact hclosed
      · exact hclosed
    refine .ite (.bindOf (typeParameters_yields hread type) hparameters) fun tokens => ?_
    exact .pure_bind (hparameters [] (by simp [AllDull]) tokens)
  exact .ite (.bind fun _ => .ite (mapTypes_yields _) hname) hname

theorem dataType_gives {use : TypeUse} (hread : Yields (read (.dataType use.mayBeCall)) NoneOrDull)
    (tokens : List Token) : Gives (dataType read use) tokens (KeptOrDull tokens none) := by
  have hnone : Yields (pure (none : Option Shape)) NoneOrDull := .pure noneOrDull_none
  have hknown (type : String) : Yields (dataType.known read use type) NoneOrDull :=
    .ite (.pure (Shape.isDull_dataType _ _).isDulled.noneOrDull) (typeBehind_yields hread _)
  have huser : Yields (dataType.userType read use) NoneOrDull :=
    .bind fun _ => typeBehind_yields hread _
  refine noneOrDull_orBack (.bind fun ahead => ?_) tokens
  split
  · exact .ite (.bind fun _ => hknown _) (.ite (.bind fun _ => huser) hnone)
  · refine .ite hnone (.bind fun _ => ?_)
    split
    · exact hknown _
    · exact huser
  · exact hnone

/-! ### Queries -/

theorem withQuery_yields : Yields (withQuery read) Shape.IsDull := by
  refine .bind fun _ => .bind fun _ => .bind fun _ => .bind fun _ => .bind fun _ => .bind fun _ =>
    .bind fun found => ?_
  split
  · exact .fail
  · exact .pure Shape.isDull_query
  · next shape hquery =>
    cases shape with
    | rows => exact .ite (.pure Shape.isDull_rows) .fail
    | _ => exact .fail

theorem bareQuery_gives (hread : Yields (read .description) (· = some .other))
    (tokens : List Token) : Gives (bareQuery read) tokens (KeptOrDull tokens none) := by
  have hquery : Yields (pure (some Shape.query)) IsDulled := .pure Shape.isDull_query.isDulled
  have hrows : Yields (pure (some Shape.rows)) IsDulled := .pure Shape.isDull_rows.isDulled
  have hselect (startsWithTable : Bool) : Yields (do
      selection read
      if !startsWithTable then
        if ← keyword "FROM" then
          let _ ← read .table
      queryClauses read
      return some Shape.query) IsDulled :=
    have hclauses : Yields (do queryClauses read; return some Shape.query) IsDulled :=
      .bind fun _ => hquery
    .bind fun _ => .ite (.bind fun _ => .ite (.bind fun _ => hclauses) hclauses) hclauses
  refine .bind (takeIf_gives _ _) ?_
  rintro _ rest (⟨rfl, rfl⟩ | ⟨rfl, -⟩)
  · refine .ite nofun fun _ => .ifTaken (fun _ rest _ _ => ?_) (.ifTaken (fun _ rest _ _ => ?_) ?_)
    · exact (hselect false rest).imp fun _ _ => .inr
    · exact .bind (.any _ _) fun _ behind _ => (hrows behind).imp fun _ _ => .inr
    · refine .ite nofun fun _ => .ifTaken (fun _ rest _ _ => ?_) (.pure keptOrDull_kept)
      exact (hread rest).imp fun _ _ hother => .inr (hother ▸ isDulled_other)
  · refine .ite (fun _ => ?_) (absurd rfl)
    refine .bind (.any _ _) fun _ _ _ => .bind (.any _ _) fun _ behind _ => ?_
    refine .imp ((?_ : Yields _ IsDulled) behind) fun _ _ => .inr
    exact .bind fun _ => .ite (hselect true) (.bind fun _ => .ite (.bind fun _ => hrows)
      fun tokens => .ite (fun _ => hquery tokens) (absurd rfl))

theorem query_gives (hread : Yields (read .description) (· = some .other)) (tokens : List Token) :
    Gives (query read .alone) tokens (KeptOrDull tokens none) := by
  refine .ifTaken (fun _ rest _ _ => ?_) ?_
  · exact .bind (withQuery_yields rest) fun _ _ hdull => .pure (.inr hdull.isDulled)
  · refine .bind (bareQuery_gives hread tokens) ?_
    rintro _ behind (⟨rfl, rfl⟩ | ⟨shape, rfl, hdull⟩)
    · exact .ite (fun _ => .pure keptOrDull_kept) nofun
    · refine .ite nofun fun _ => .bind (joinedQueries_gives shape behind) fun found _ hfound => ?_
      refine .pure (.inr ?_)
      rcases hfound with ⟨rfl, -⟩ | hdull
      · exact hdull.isDulled
      · exact hdull.isDulled

theorem description_yields : Yields (description read) (· = some .other) := by
  refine .bind fun _ => .bind fun _ => ?_
  extract_lets described named
  have hdescribed : Yields (described ()) (· = some .other) := .bind fun _ => .pure rfl
  have hnamed : Yields (named ()) (· = some .other) :=
    .bind fun _ => .ite (.bind fun _ => hdescribed) (.bind fun _ => hdescribed)
  exact .ite (.bind fun _ => hnamed) hnamed

end

/-! ### All parts -/

variable {depth : Nat}

theorem partsSound (depth : Nat) : PartsSound depth := by
  induction depth with
  | zero =>
    exact
      { placeholder := fun _ => .fail
        description := fun _ => .fail
        query := fun _ => .fail
        dataType := fun _ _ => .fail
        expression := fun _ => .fail
        assignment := fun _ => .fail
        bitwise := fun _ => .fail
        unary := fun _ => .fail
        argument := fun _ _ => .fail
        function := fun _ => .fail }
  | succ depth hread =>
    exact
      { placeholder := placeholder_gives
        description := description_yields
        query := query_gives hread.description
        dataType := fun mayBeCall => dataType_gives fun tokens =>
          (hread.dataType mayBeCall tokens).imp fun _ _ => KeptOrDull.noneOrDull
        expression := expression_gives hread
        assignment := assignment_gives hread
        bitwise := bitwise_gives hread
        unary := unary_gives hread
        argument := argument_gives hread
        function := fun tokens => .of_forall fun _ _ h =>
          ⟨(function_gives hread tokens).of_eq_ok h,
            fun hbrace => (function_idleOrFound hread hbrace).of_eq_ok h⟩ }

/-! ### Statements -/

theorem queryStatement_gives (tokens : List Token) :
    Gives (queryStatement (read depth)) tokens (Outcome tokens) := by
  have hread := partsSound depth
  refine .bind (hread.expression tokens) fun shape behind hshape => ?_
  extract_lets ended
  have hended (shape : Option Shape) (behind : List Token) (hshape : Outcome tokens shape behind) :
      Gives (ended shape) behind (Outcome tokens) := by
    refine .ite (fun htakes => .bind (.any _ _) fun _ rest _ => .pure ?_) fun _ => .pure hshape
    obtain rfl | rfl : shape = some .query ∨ shape = some .rows := by
      revert htakes
      cases shape with
      | none => simp
      | some shape => cases shape <;> simp [Shape.takesClauses]
    · exact .inl Shape.isDull_query
    · exact .inl Shape.isDull_rows
  cases shape with
  | none => exact .bind (hread.query behind) fun _ _ h => hended _ _ (h.outcome hshape)
  | some shape =>
    refine .bind (joinedQueries_gives shape behind) fun found rest hfound => .pure_bind ?_
    rcases hfound with ⟨rfl, rfl⟩ | hdull
    · exact hended _ _ hshape
    · exact hended _ _ (.inl hdull)

theorem statement_gives (tokens : List Token) :
    Gives (statement (read depth)) tokens (Outcome tokens) := by
  have hquery : Yields (pure (some Shape.query)) IsDulled := .pure Shape.isDull_query.isDulled
  refine .bind (get_gives _) ?_
  rintro _ ahead ⟨rfl, rfl⟩
  split
  · refine .ite (fun _ => ?_) fun _ =>
      .ite (fun _ => function_gives (partsSound depth) _) fun _ => ?_
    · exact .imp (Yields.bind (fun _ => .bind fun _ => hquery) _) fun _ _ => IsDulled.outcome
    · split
      · exact .imp (Yields.bind (fun _ => .bind fun _ => hquery) _) fun _ _ => IsDulled.outcome
      · exact queryStatement_gives _
  · exact queryStatement_gives _

/-- What a whole statement is read as is dull, or the statement spells it. -/
theorem statementShape_outcome {tokens : List Token} {shape : Shape}
    (h : statementShape tokens = .ok (some shape)) : Outcome tokens (some shape) [] := by
  have hread (depth : Nat) : Gives (read depth .statement) tokens (Outcome tokens) := by
    cases depth with
    | zero => exact .fail
    | succ depth => exact statement_gives tokens
  unfold statementShape at h
  split at h
  · cases h
    exact .inl Shape.isDull_other
  · split at h
    · next hstatement =>
      cases h
      exact (hread _).of_eq_ok hstatement
    · cases h
    · cases h

/-! ### Texts -/

/-- The tokens of a text that are no comments. -/
def uncommented (placed : List Placed) : List Token :=
  (placed.filter (·.token != .comment)).map Placed.token

theorem chunks_ne_nil (placed : List Placed) : chunks placed ≠ [] := by
  cases placed with
  | nil => exact List.cons_ne_nil _ _
  | cons part placed =>
    rw [chunks]
    split
    · exact List.cons_ne_nil _ _
    · split <;> exact List.cons_ne_nil _ _

/-- The tokens between the semicolons and the semicolons are all tokens. -/
theorem map_chunks (placed : List Placed) :
    [Token.mark ";"].intercalate ((chunks placed).map (·.map Placed.token)) =
      placed.map Placed.token := by
  induction placed with
  | nil => rfl
  | cons part placed ih =>
    obtain ⟨first, more, hchunks⟩ := List.exists_cons_of_ne_nil (chunks_ne_nil placed)
    rw [hchunks] at ih
    rw [chunks, List.map_cons, ← ih]
    split
    · next hsemicolon =>
      rw [hchunks]
      simp [List.intercalate_cons_cons, eq_of_beq hsemicolon]
    · rw [hchunks]
      cases more <;> simp [List.intercalate_cons_cons]

/-- Some tokens are those of a statement, which a semicolon may end. -/
inductive IsStatement (statement : List Token) : List Token → Prop where
  | plain : IsStatement statement statement
  | ended : IsStatement statement (statement ++ [.mark ";"])

theorem part_outcome {text : List Char} {part : List Placed} {shape : Shape}
    (h : (statementShape (part.map Placed.token)).mapError (·.report text part) =
      .ok (some shape)) :
    shape.IsDull ∨ Spells (part.map Placed.token) [] shape := by
  cases hread : statementShape (part.map Placed.token) with
  | error refusal => simp [hread, Except.mapError] at h
  | ok found =>
    rw [hread] at h
    cases h
    exact statementShape_outcome hread

/-- What a text is read as is dull, or the tokens of its one statement spell it. -/
theorem parse_outcome {text : List Char} {shape : Shape} (h : parse text = .ok shape) :
    shape.IsDull ∨ ∃ placed statement, tokens? text = some placed ∧
      IsStatement statement (uncommented placed) ∧ Spells statement [] shape := by
  unfold parse at h
  cases htokens : tokens? text with
  | none => simp [htokens] at h
  | some placed =>
    simp only [htokens] at h
    obtain ⟨shapes, hshapes, hresult⟩ := bind_eq_ok_iff.mp h
    have hparts := mapM_eq_ok_iff.mp hshapes
    have hplaced := map_chunks (placed.filter (·.token != .comment))
    suffices hspelled : shape.IsDull ∨ ∃ statement,
        IsStatement statement (uncommented placed) ∧ Spells statement [] shape from
      hspelled.imp_right fun ⟨statement, hspells⟩ => ⟨placed, statement, rfl, hspells⟩
    split at hresult
    · next found =>
      cases hresult
      obtain ⟨part, _, hpart, hnil, hone⟩ := List.forall₂_cons_right_iff.mp hparts
      rw [hone, List.forall₂_nil_right_iff.mp hnil] at hplaced
      refine (part_outcome hpart).imp_right fun hspells => ⟨_, ?_, hspells⟩
      rw [uncommented, ← hplaced]
      simpa using IsStatement.plain
    · next found _ part hchunks =>
      rw [hchunks] at hparts hplaced
      obtain ⟨hpart, -⟩ := List.forall₂_cons.mp hparts
      split at hresult
      · cases hresult
        refine (part_outcome hpart).imp_right fun hspells => ⟨_, ?_, hspells⟩
        rw [uncommented, ← hplaced]
        exact .ended
      · cases hresult
        exact .inl Shape.isDull_other
    · cases hresult
      exact .inl Shape.isDull_other
    · cases hresult

end DartModels.Sql
