import DartModels.Proofs.Sql.Calls

namespace DartModels.Sql

open Reading

/-! ### What goes on a value -/

section

variable {read : Reader}

/-- A value is left as it is, it becomes something dull, or it is a text that a cast marks as
    JSON. -/
def Carried (read : Reader) (tokens : List Token) (shape found : Shape) (rest : List Token) :
    Prop :=
  found = shape ∧ rest = tokens ∨ found.IsDull ∨
    ∃ content behind hasParameters, shape = .literal content ∧ found = .json content ∧
      tokens = .mark "::" :: behind ∧
      read (.dataType false) behind = .ok (some (.dataType true hasParameters), rest)

variable {tokens : List Token} {shape value : Shape}

theorem Carried.bracketed_getD {ahead : List Token}
    (hvalue : Carried read tokens shape value ahead) :
    Gives (do return some ((← bracketed read (some value)).getD .other)) ahead fun found rest =>
      ∃ next, found = some next ∧ Carried read tokens shape next rest := by
  refine .bind (bracketed_gives (some value) ahead) fun found rest h => .pure ?_
  rcases h with ⟨rfl, rfl⟩ | ⟨dull, rfl, hdull⟩
  · exact ⟨value, rfl, hvalue⟩
  · exact ⟨dull, rfl, .inr (.inl hdull)⟩

/-- A cast marks a text as JSON only if nothing else goes on the text before. -/
theorem Carried.cast {behind rest : List Token} {type : Shape}
    (hvalue : Carried read tokens shape value (.mark "::" :: behind)) :
    read (.dataType false) behind = .ok (some type, rest) →
      Carried read tokens shape
        (match type with
        | .dataType isJson _ => value.castTo isJson
        | _ => .other) rest := by
  intro htype
  cases type with
  | dataType isJson hasParameters =>
    obtain hdull | ⟨content, rfl, rfl, hcast⟩ := castTo_spec isJson value
    · exact .inr (.inl hdull)
    · rcases hvalue with ⟨hshape, htokens⟩ | hdull | ⟨_, _, _, -, hjson, -⟩
      · exact .inr (.inr ⟨content, behind, hasParameters, hshape.symm, hcast, htokens.symm, htype⟩)
      · simp [Shape.IsDull, Shape.content?] at hdull
      · cases hjson
  | _ => exact .inr (.inl Shape.isDull_other)

/-- Apart from a cast of a text to JSON, what goes on a value makes something dull of it. -/
theorem columnOperators_gives (shape : Shape) (tokens : List Token) :
    Gives (columnOperators read shape) tokens (Carried read tokens shape) := by
  refine .bind (bracketed_gives (some shape) tokens) fun start behind hstart => iterate_keeps ?_ ?_
  · intro value ahead hvalue
    have hnext (found : Option Shape) (rest : List Token) :
        (∃ next, found = some next ∧ Carried read tokens shape next rest) →
          Carried read tokens shape (found.getD value) rest := by
      rintro ⟨next, rfl, h⟩
      exact h
    refine .bind (takeIf_gives _ _) ?_
    rintro _ rest (⟨rfl, rfl⟩ | ⟨rfl, token, hmark, rfl⟩)
    · refine .ite nofun fun _ => .ifTaken (fun _ behind _ _ => ?_) (.pure hvalue)
      refine .bind (fieldOf_yields value behind) fun found rest hdull => ?_
      exact .imp (Carried.bracketed_getD (.inr (.inl hdull))) hnext
    · rw [eq_of_beq hmark] at hvalue
      refine .ite (fun _ => .pure_bind ?_) (absurd rfl)
      refine .ite (fun _ => .bind (.any _ _) fun type behind htype => ?_) (absurd rfl)
      cases type with
      | none => exact .fail
      | some type => exact (hvalue.cast htype).bracketed_getD.imp hnext
  · rcases hstart with ⟨rfl, rfl⟩ | ⟨dull, rfl, hdull⟩
    · exact .inl ⟨rfl, rfl⟩
    · exact .inr (.inl hdull)

theorem columnOperators_yields {shape : Shape} (hshape : shape.IsDull) :
    Yields (columnOperators read shape) Shape.IsDull := fun tokens =>
  (columnOperators_gives shape tokens).imp fun found rest h => by
    rcases h with ⟨rfl, -⟩ | hdull | ⟨content, _, _, rfl, -⟩
    · exact hshape
    · exact hdull
    · simp [Shape.IsDull, Shape.content?] at hshape

end

variable {depth : Nat}

theorem columnOperators_outcome {shape : Shape} {tokens behind : List Token}
    (hshape : Outcome tokens (some shape) behind) :
    Gives (columnOperators (read depth) shape) behind fun found => Outcome tokens (some found) := by
  refine (columnOperators_gives shape behind).imp fun found rest h => ?_
  rcases h with ⟨rfl, rfl⟩ | hdull | ⟨content, typed, hasParameters, rfl, rfl, rfl, htype⟩
  · exact hshape
  · exact .inl hdull
  · exact .inr (.cast hshape.spells ⟨depth, false, hasParameters, htype⟩)

/-! ### What is between parentheses -/

theorem rowsEnd_yields {read : Reader} : Yields (rowsEnd read) Shape.IsDull :=
  .bind fun _ => .bind fun _ => .pure Shape.isDull_rows

theorem firstItem_of_isDull {item : Reading (Option Shape)} {shape : Shape} (hdull : shape.IsDull)
    (tokens rest : List Token) : FirstItem item tokens ([shape], false) rest :=
  ⟨tokens, rest, .none tokens, .inl hdull, .none rest, fun _ _ => rfl⟩

/-- What is between parentheses is in them as it is only if nothing else stands beside it. -/
theorem FirstItem.parenthesized {item : Reading (Option Shape)} {tokens rest : List Token}
    {shape : Shape} {endsInComma : Bool}
    (h : FirstItem item tokens ([shape], endsInComma) (.mark ")" :: rest)) :
    Outcome (.mark "(" :: tokens) (some (if endsInComma then .other else .parenthesized shape))
      rest := by
  obtain ⟨start, behind, places, hshape, -, hend⟩ := h
  cases endsInComma with
  | true => exact .inl Shape.isDull_other
  | false =>
    obtain rfl := hend rfl rfl
    exact hshape.imp Shape.IsDull.parenthesized (.parenthesized places)

theorem parenthesized_gives (hread : PartsSound depth) (tokens : List Token) :
    Gives (parenthesized (read depth)) tokens fun shape rest =>
      Outcome (.mark "(" :: tokens) (some shape) rest := by
  refine .bind (hread.query tokens) fun query behind hquery => ?_
  extract_lets closed enclosed
  have hclosed (shape : Shape) (behind : List Token)
      (hshape : ∀ rest, behind = .mark ")" :: rest →
        Outcome (.mark "(" :: tokens) (some shape) rest) :
      Gives (closed shape) behind fun shape rest =>
        Outcome (.mark "(" :: tokens) (some shape) rest := by
    refine .bind (expectMark_gives ")" _) fun _ rest hclosing => ?_
    split
    · refine (windowed_gives _ rest).imp fun found last hfound => .inl ?_
      rcases hfound with ⟨rfl, -⟩ | hdull
      · exact Shape.isDull_aggregate.parenthesized
      · exact hdull
    · exact .pure (hshape rest hclosing)
  have hdulled {reading : Reading Shape} (hyields : Yields reading Shape.IsDull)
      (behind : List Token) : Gives (reading >>= closed) behind fun shape rest =>
        Outcome (.mark "(" :: tokens) (some shape) rest :=
    .bind (hyields behind) fun shape rest hdull => hclosed shape rest fun _ _ => .inl hdull
  have henclosed (found : List Shape × Bool) (behind : List Token)
      (hfound : FirstItem (read depth .expression) tokens found behind) :
      Gives (enclosed found) behind fun shape rest =>
        Outcome (.mark "(" :: tokens) (some shape) rest := by
    obtain ⟨shapes, endsInComma⟩ := found
    dsimp only [enclosed]
    split
    · refine .bind (isNext_gives _ _) fun _ behind _ => ?_
      split
      · exact hdulled (.pure Shape.isDull_other) behind
      · exact hdulled .fail behind
    · exact hdulled rowsEnd_yields behind
    · refine .bind (.any _ _) fun _ behind _ => .bind (.any _ _) fun _ behind _ => ?_
      exact hdulled rowsEnd_yields behind
    · refine .pure_bind (hclosed _ _ ?_)
      rintro rest rfl
      exact hfound.parenthesized
    · exact hdulled (.pure Shape.isDull_other) behind
  rcases hquery with ⟨rfl, rfl⟩ | ⟨shape, rfl, hdull⟩
  · exact .bind (items_gives hread.expression behind) henclosed
  · exact .pure_bind (henclosed _ _ (firstItem_of_isDull hdull _ _))

/-- Texts one after the other are joined. -/
theorem joinedTexts_gives (tokens : List Token) :
    Gives (iterate (fun _ : Bool => do return if ← plainText then some true else none) false)
      tokens fun isJoined rest => isJoined = false ∧ rest = tokens ∨ isJoined = true := by
  refine iterate_gives (fun _ tokens => .bind (takeIf_gives _ tokens) ?_) false tokens
  rintro _ behind (⟨rfl, rfl⟩ | ⟨rfl, -⟩)
  · exact .pure (.inl ⟨rfl, rfl⟩)
  · exact .pure (.inr ⟨true, rfl, rfl⟩)

/-- What is read behind a star as a function that names columns. -/
theorem starred_gives (hread : PartsSound depth) {tokens : List Token}
    (hcolumns : tokens.head?.any (·.spells "COLUMNS") = true) :
    Gives (read depth .function) tokens fun found rest =>
      IdleOrFound (.mark "*" :: tokens) found rest ∨ found = none ∧ ∃ function behind,
        function.spells "COLUMNS" ∧ tokens = rest ∧ rest = function :: behind := by
  obtain ⟨token, ahead, rfl, hspells⟩ : ∃ token ahead, tokens = token :: ahead ∧
      token.spells "COLUMNS" := by
    cases tokens <;> simp_all
  have hbrace : (token :: ahead).head? ≠ some (.mark "\x7b") := by
    rintro ⟨⟩
    revert hspells
    decide
  refine (hread.function (token :: ahead)).imp fun found behind hfound => ?_
  rcases hfound.2 hbrace with ⟨rfl, rfl⟩ | ⟨shape, rfl, hshape⟩
  · exact .inr ⟨rfl, token, ahead, hspells, rfl, rfl⟩
  · exact .inl (.inr ⟨shape, rfl, hshape.imp id (.star hspells)⟩)

theorem primary_gives (hread : PartsSound depth) (tokens : List Token) :
    Gives (primary (read depth)) tokens fun found rest =>
      IdleOrFound tokens found rest ∨ found = none ∧ ∃ function behind,
        function.spells "COLUMNS" ∧ tokens = .mark "*" :: rest ∧ rest = function :: behind := by
  refine .bind (get_gives _) ?_
  rintro _ ahead ⟨rfl, rfl⟩
  split
  · refine .bind (set_gives _ _) ?_
    rintro _ rest rfl
    refine .bind (joinedTexts_gives rest) ?_
    rintro isJoined _ (⟨rfl, rfl⟩ | rfl)
    · exact .pure (.inl (.inr ⟨_, rfl, .inr (.text _ _)⟩))
    · exact .pure (.inl keptOrDull_other.idleOrFound)
  · exact .bind (.any _ _) fun _ _ _ => .pure (.inl keptOrDull_other.idleOrFound)
  · exact .bind (.any _ _) fun _ _ _ => .pure (.inl keptOrDull_other.idleOrFound)
  · exact .bind (.any _ _) fun _ _ _ =>
      .pure (.inl (.inr ⟨_, rfl, .inl Shape.isDull_number⟩))
  · exact .bind (.any _ _) fun _ _ _ =>
      .pure (.inl (.inr ⟨_, rfl, .inl Shape.isDull_number⟩))
  · refine .bind (set_gives _ _) ?_
    rintro _ rest rfl
    refine .bind (isNext_gives _ _) ?_
    rintro isColumns _ ⟨hcolumns, rfl⟩
    refine .bind (isSecond_gives _ _) ?_
    rintro isSecond rest ⟨hsecond, rfl⟩
    refine .ite (fun hpattern => ?_) fun _ => ?_
    · have hstar : rest.head?.any (·.spells "COLUMNS") = true := by simp_all
      refine (starred_gives hread hstar).imp fun found behind hfound => hfound.imp_right ?_
      rintro ⟨hnone, function, ahead, hspells, rfl, hrest⟩
      exact ⟨hnone, function, ahead, hspells, rfl, hrest⟩
    · refine .bind (.any _ _) fun _ _ _ => .bind (.any _ _) fun _ _ _ => ?_
      exact .bind (.any _ _) fun _ _ _ => .pure (.inl keptOrDull_other.idleOrFound)
  · refine .bind (set_gives _ _) ?_
    rintro _ rest rfl
    exact .bind (parenthesized_gives hread rest) fun shape _ hshape =>
      .pure (.inl (.inr ⟨shape, rfl, hshape⟩))
  · refine .ite (fun _ => ?_) fun _ => .pure (.inl (.inl ⟨rfl, rfl⟩))
    exact .bind (.any _ _) fun _ _ _ => .pure (.inl keptOrDull_other.idleOrFound)
  · exact .pure (.inl (.inl ⟨rfl, rfl⟩))

/-- What is read behind a star in front of a function that names columns is read as well where
    the star is taken for nothing. -/
theorem Outcome.star {function : Token} {tokens rest : List Token} {found : Option Shape}
    (h : Outcome (function :: tokens) found rest) (hspells : function.spells "COLUMNS") :
    Outcome (.mark "*" :: function :: tokens) found rest := by
  cases found with
  | none => exact Empty.cons (by simp [Token.IsFiller]) h
  | some shape => exact h.imp id (.star hspells)

/-- Reads a value that is no value by itself: a call or a name. -/
theorem callOrName_gives (hread : PartsSound depth) (tokens : List Token) : Gives (do
    if let some shape ← function (read depth) plainStyle then return some shape
    if let some shape ← name (read depth) then return some shape
    let isValues := (← isNext (·.isKeyword "VALUES")) && !(← isSecond (· == .mark "("))
    if isValues then
      let _ ← keyword "VALUES"
      return some (.name "VALUES" true)
    else return none) tokens (Outcome tokens) := by
  refine .bind (function_gives hread tokens) fun call behind hcall => ?_
  cases call with
  | some shape => exact .pure hcall
  | none =>
    refine .bind (nameAmong_gives hread.placeholder _ behind) ?_
    rintro _ rest (⟨rfl, rfl⟩ | ⟨shape, rfl, hdull⟩)
    · refine .bind (isNext_gives _ _) ?_
      rintro isNext _ ⟨-, rfl⟩
      refine .bind (isSecond_gives _ _) ?_
      rintro isSecond _ ⟨-, rfl⟩
      refine .ite (fun _ => ?_) fun _ => .pure hcall
      exact .bind (.any _ _) fun _ _ _ => .pure (.inl (Shape.isDull_name _ _))
    · exact .pure (.inl hdull)

theorem columnBase_gives (hread : PartsSound depth) (tokens : List Token) :
    Gives (columnBase (read depth)) tokens (Outcome tokens) := by
  refine .bind (primary_gives hread tokens) fun found behind hfound => ?_
  cases found with
  | some shape => exact .pure (by simpa [IdleOrFound] using hfound)
  | none =>
    obtain rfl | ⟨function, ahead, hspells, rfl, rfl⟩ : behind = tokens ∨ ∃ function ahead,
        function.spells "COLUMNS" ∧ tokens = .mark "*" :: behind ∧ behind = function :: ahead := by
      simpa [IdleOrFound] using hfound
    · exact callOrName_gives hread behind
    · exact (callOrName_gives hread _).imp fun _ _ h => h.star hspells

theorem column_gives (hread : PartsSound depth) (tokens : List Token) :
    Gives (column (read depth)) tokens (Outcome tokens) := by
  refine .bind (columnBase_gives hread tokens) fun base behind hbase => ?_
  cases base with
  | none => exact (bracketed_gives none behind).imp fun _ _ h => h.outcome hbase
  | some shape => exact .bind (columnOperators_outcome hbase) fun _ _ h => .pure h

/-! ### Intervals -/

section

variable {read : Reader}

theorem intervalBehind_yields : Yields (intervalBehind read) NoneOrDull := by
  refine .bind fun isText => ?_
  extract_lets added further behindAmount
  have hadded : Yields (added ()) NoneOrDull := .bind fun _ => .pure noneOrDull_other
  have hfurther : Yields (further ()) NoneOrDull :=
    .bind fun _ => .ite (.bind fun _ => hadded) hadded
  have hamount (amount : Option Shape) : Yields (behindAmount amount) NoneOrDull := by
    refine .bind fun isUnitless => ?_
    extract_lets content unit
    have hunit : Yields (unit ()) NoneOrDull :=
      .bind fun _ => .bind fun _ =>
        .ite (.bind fun _ => .ite (.bind fun _ => .bind fun _ => hfurther) hfurther) hfurther
    split
    · exact .pure noneOrDull_none
    · exact .ite (.pure noneOrDull_none) hunit
    · exact hunit
  exact .ite (.bind hamount) (.bind hamount)

theorem interval_gives (tokens : List Token) :
    Gives (interval read) tokens (KeptOrDull tokens none) :=
  noneOrDull_orBack (.bind fun _ => .ite intervalBehind_yields (.pure noneOrDull_none)) tokens

end

/-! ### Operands -/

/-- A text behind its type is marked as JSON if the type is. -/
theorem typedText_gives {tokens behind : List Token} {isJson hasParameters mayBeCall : Bool}
    (htype : read depth (.dataType mayBeCall) tokens =
      .ok (some (.dataType isJson hasParameters), behind))
    {content : String} {ahead : List Token}
    (htext : Outcome behind (some (.literal content)) ahead) :
    Gives (do return some ((← columnOperators (read depth) (.literal content)).castTo isJson)) ahead
      (Outcome tokens) := by
  refine .bind (columnOperators_outcome htext) fun found rest hfound => .pure ?_
  obtain hdull | ⟨content, rfl, rfl, hcast⟩ := castTo_spec isJson found
  · exact .inl hdull
  · rw [hcast]
    exact .inr (.typed ⟨depth, mayBeCall, hasParameters, htype⟩ hfound.spells)

theorem operand_gives (hread : PartsSound depth) (tokens : List Token) :
    Gives (operand (read depth)) tokens (Outcome tokens) := by
  refine .bind (interval_gives tokens) ?_
  rintro _ behind (⟨rfl, rfl⟩ | ⟨shape, rfl, hdull⟩)
  · refine .bind (get_gives _) ?_
    rintro _ start ⟨rfl, rfl⟩
    extract_lets isTyped untyped behindType
    have huntyped : Gives (untyped ()) start (Outcome start) := by
      refine .bind (column_gives hread start) fun found rest hfound => ?_
      cases found with
      | none => exact .pure hfound
      | some shape => exact .bind (columnOperators_outcome hfound) fun _ _ h => .pure h
    have htyped (type : Option Shape) (behind : List Token) (hnone : type = none → behind = start)
        (hsome : ∀ shape, type = some shape → shape.IsDull ∧
          read depth (.dataType true) start = .ok (some shape, behind)) :
        Gives (behindType type) behind (Outcome start) := by
      unfold behindType
      split
      · next isJson hasParameters =>
        obtain ⟨hdull, htype⟩ := hsome _ rfl
        refine .bind (get_gives _) ?_
        rintro _ ahead ⟨rfl, rfl⟩
        refine .bind (primary_gives hread ahead) fun found rest hfound => ?_
        split
        · refine typedText_gives htype ?_
          simpa [IdleOrFound] using hfound
        · refine .imp (Yields.bind (fun _ => ?_) rest) fun _ _ => IsDulled.outcome
          exact .pure Shape.isDull_other.isDulled
        · refine .ite (fun _ => .bind (.any _ _) fun _ behind _ => ?_) fun _ => ?_
          · exact .bind (columnOperators_yields hdull _) fun _ _ hdull => .pure (.inl hdull)
          · refine .bind (set_gives _ _) ?_
            rintro _ _ rfl
            exact huntyped
      · next shape _ =>
        exact .bind (columnOperators_yields (hsome _ rfl).1 _) fun _ _ hdull => .pure (.inl hdull)
      · exact hnone rfl ▸ huntyped
    refine .ite (fun _ => .bind (.any _ _) fun type behind htype => ?_) fun _ => ?_
    · have hdull := (hread.dataType true start).of_eq_ok htype
      refine htyped type behind ?_ ?_
      · rintro rfl
        simpa [KeptOrDull, IsDulled] using hdull
      · rintro shape rfl
        exact ⟨hdull.noneOrDull shape rfl, htype⟩
    · exact .pure_bind (htyped none start (fun _ => rfl) nofun)
  · exact .bind (columnOperators_yields hdull behind) fun _ _ hdull => .pure (.inl hdull)

end DartModels.Sql
