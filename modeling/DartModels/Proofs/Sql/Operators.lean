import DartModels.Proofs.Sql.Operands

namespace DartModels.Sql

open Reading

variable {tokens : List Token}

section

variable {read : Reader}

/-! ### Operators of one strength -/

theorem operator_gives (construct? : Token → Option String) (tokens : List Token) :
    Gives (operator construct?) tokens fun found rest => found = none → rest = tokens := by
  refine .bind (get_gives _) ?_
  rintro _ ahead ⟨rfl, rfl⟩
  split
  · exact .bind (.any _ _) fun _ _ _ => .pure nofun
  · exact .pure fun _ => rfl

theorem bothSides_yields (construct : String) (left right : Option Shape) :
    Yields (bothSides construct left right) IsDulled :=
  .bind fun _ => .bind fun _ => .pure isDulled_other

theorem reaches_operator (operand : Reading (Option Shape)) (construct? : Token → Option String) :
    Reaches (fun shape => do
      match ← operator construct? with
      | some construct => return some (← bothSides construct shape (← operand))
      | none => return none) IsDulled := by
  intro shape tokens
  refine .bind (operator_gives construct? tokens) fun found rest hfound => ?_
  cases found with
  | none => exact .pure (.inl ⟨rfl, hfound rfl⟩)
  | some construct =>
    refine Yields.reaches ?_ _ _
    exact .bind fun _ => .bindOf (bothSides_yields _ _ _) fun _ h => .pure ⟨_, rfl, h⟩

theorem operatorsFrom_gives {first : Reading (Option Shape)} (operand : Reading (Option Shape))
    (construct? : Token → Option String) (hfirst : Gives first tokens (Outcome tokens)) :
    Gives (operatorsFrom first operand construct?) tokens (Outcome tokens) :=
  gives_outcome_bind hfirst fun _ _ => iterate_gives (reaches_operator operand construct?) _ _

/-! ### Operators of bits -/

theorem idle_doubled (spelling : String) : Idle (doubled spelling) := by
  intro tokens
  refine .bind (isNext_gives _ _) ?_
  rintro isFirst _ ⟨hfirst, rfl⟩
  refine .bind (isSecond_gives _ _) ?_
  rintro isSecond ahead ⟨hsecond, rfl⟩
  refine .ite (fun htrue => ?_) fun _ => .pure fun _ => rfl
  obtain ⟨rest, rfl⟩ : ∃ rest, ahead = .mark spelling :: .mark spelling :: rest := by
    match ahead with
    | [] | [_] => simp_all
    | first :: second :: rest => exact ⟨rest, by simp_all⟩
  refine .bind (takeIf_gives _ _) ?_
  rintro _ _ (⟨rfl, rfl⟩ | ⟨rfl, first, -, hahead⟩)
  · simp [Gives, mark, takeIf]
  · cases hahead
    simp [Gives, mark, takeIf]

theorem reaches_bitwise : Reaches (fun shape => do
    if ← mark "??" then
      let _ ← sum read
      let _ ← need "this" "functions.Coalesce" shape
      return some (some .other)
    if ← doubled "<" then
      return some (← bothSides "core.BitwiseLeftShift" shape (← sum read))
    if ← doubled ">" then
      return some (← bothSides "core.BitwiseRightShift" shape (← sum read))
    match ← operator bitOperators with
    | some construct => return some (← bothSides construct shape (← sum read))
    | none => return none) IsDulled := by
  intro shape tokens
  have hboth (construct : String) : Yields (do
      return some (← bothSides construct shape (← sum read))) fun found =>
        ∃ next, found = some next ∧ IsDulled next :=
    .bind fun _ => .bindOf (bothSides_yields _ _ _) fun _ h => .pure ⟨_, rfl, h⟩
  refine .ifTaken (fun _ rest _ _ => Yields.reaches ?_ _ rest) ?_
  · exact .bind fun _ => .bind fun _ => .pure ⟨_, rfl, isDulled_other⟩
  · refine (idle_doubled _).ite ((hboth _).reaches _) ?_
    exact (idle_doubled _).ite ((hboth _).reaches _) (reaches_operator _ _ shape tokens)

/-! ### What is said about a value -/

theorem isPredicate_gives (shape : Option Shape) (tokens : List Token) :
    Gives (isPredicate read shape) tokens (KeptOrDull tokens none) := by
  refine noneOrDull_orBack (.bind fun _ => .bind fun isNegated => .bind fun _ => .ite ?_ ?_) tokens
  · exact .bind fun _ => .imp (bothSides_yields _ _ _) fun _ => IsDulled.noneOrDull
  · have hsaid : Yields (do
        let _ ← need "this" "core.Is" shape
        return some (← columnOperators read .other)) NoneOrDull :=
      .bind fun _ => .bindOf (columnOperators_yields Shape.isDull_other)
        fun _ hdull => .pure hdull.isDulled.noneOrDull
    refine .bind fun _ => .ite ?_ ?_
    · exact .bind fun _ => .bind fun _ => .bind fun _ => .bind fun _ => hsaid
    · exact .bind fun _ => .ite (.bind fun _ => .ite (.pure noneOrDull_none) hsaid) hsaid

theorem reaches_namedOperator : Reaches (fun shape => do
    let isNamed := (← isNext (·.isKeyword "OPERATOR")) && (← isSecond (· == .mark "("))
    if isNamed then
      let _ ← keyword "OPERATOR"
      iterate (fun _ => do
        return if ← takeIf (· != .mark ")") then some () else none) ()
      let _ ← mark ")"
      return some (← bothSides "core.Operator" shape (← bitwise read))
    else return none) IsDulled := by
  intro shape tokens
  refine .bind (isNext_gives _ _) ?_
  rintro isFirst _ ⟨-, rfl⟩
  refine .bind (isSecond_gives _ _) ?_
  rintro isSecond _ ⟨-, rfl⟩
  refine .ite (fun _ => Yields.reaches ?_ _ _) fun _ => .pure (.inl ⟨rfl, rfl⟩)
  refine .bind fun _ => .bind fun _ => .bind fun _ => .bind fun _ => ?_
  exact .bindOf (bothSides_yields _ _ _) fun _ h => .pure ⟨_, rfl, h⟩

/-- Where an operator is named, a step is taken. -/
theorem namedOperators_gives (shape : Option Shape) {tokens : List Token}
    (hnamed : tokens.head?.any (·.isKeyword "OPERATOR"))
    (hsecond : tokens.tail.head?.any (· == .mark "(")) :
    Gives (namedOperators read shape) tokens fun found _ => IsDulled found := by
  refine iterate_reaches reaches_namedOperator (by rintro rfl; simp at hnamed) ?_
  refine .bind (isNext_gives _ _) ?_
  rintro _ _ ⟨rfl, rfl⟩
  refine .bind (isSecond_gives _ _) ?_
  rintro _ _ ⟨rfl, rfl⟩
  refine .ite (fun _ => ?_) fun hfalse => by simp_all
  refine Yields.bind (fun _ => .bind fun _ => .bind fun _ => .bind fun _ => ?_) _
  exact .bindOf (bothSides_yields _ _ _) fun _ h => .pure ⟨_, rfl, h⟩

theorem comprehension_gives (shape : Option Shape) (tokens : List Token) :
    Gives (comprehension read shape) tokens (KeptOrDull tokens none) := by
  refine noneOrDull_orBack (.bind fun _ => .bind fun item => .bind fun _ => ?_) tokens
  extract_lets behindItem
  have hbehind : Yields (behindItem ()) NoneOrDull := by
    refine .bind fun _ => .ite (.bind fun items => .bind fun _ => ?_) (.pure noneOrDull_none)
    have hneeds : Yields (do
        let _ ← need "this" "core.Comprehension" shape
        let _ ← need "expression" "core.Comprehension" item
        let _ ← need "iterator" "core.Comprehension" items
        return some Shape.other) NoneOrDull :=
      .bind fun _ => .bind fun _ => .bind fun _ => .pure noneOrDull_other
    exact .ite (.bind fun _ => hneeds) hneeds
  exact .ite (.bind fun _ => hbehind) hbehind

theorem matchOperator_yields (shape : Option Shape) : Yields (do
    match ← operator matchOperators with
    | some construct =>
      let right ← matched read construct
      let found ←
        if construct = "array.ArrayContainedBy" then bothSides "array.ArrayContainsAll" right shape
        else bothSides construct shape right
      escapeClause read
      return found
    | none => return none) NoneOrDull := by
  refine .bind fun construct? => ?_
  cases construct? with
  | none => exact .pure noneOrDull_none
  | some construct =>
    have hfound (found : Option Shape) (h : IsDulled found) : Yields (do
        escapeClause read
        return found) NoneOrDull :=
      .bind fun _ => .pure h.noneOrDull
    refine .bind fun right => .ite ?_ ?_
    · exact .bindOf (bothSides_yields _ _ _) hfound
    · exact .bindOf (bothSides_yields _ _ _) hfound

theorem predicate_yields (shape : Option Shape) : Yields (predicate read shape) NoneOrDull := by
  have hother : Yields (pure (some Shape.other)) NoneOrDull := .pure noneOrDull_other
  refine .bind fun _ => .ite ?_ (.bind fun _ => .ite ?_ (.bind fun _ => .ite ?_ fun tokens => ?_))
  · exact .bind fun _ => .bind fun _ => .bind fun _ => .bind fun _ => .bind fun _ => .bind fun _ =>
      .bind fun _ => hother
  · exact .bind fun _ => .bind fun _ => hother
  · exact .bind fun _ => hother
  · refine .bind (isNext_gives _ _) ?_
    rintro isNamed _ ⟨hnamed, rfl⟩
    refine .ite (fun htrue => ?_) fun _ => ?_
    · refine .bind (isSecond_gives _ _) ?_
      rintro isSecond _ ⟨hsecond, rfl⟩
      refine .ite (fun hisSecond => ?_) fun _ => .pure noneOrDull_none
      refine .bind (namedOperators_gives shape (hnamed.symm.trans htrue)
        (hsecond.symm.trans hisSecond)) fun _ _ h => .pure h.noneOrDull
    · refine Yields.bind (fun _ => .ite ?_ (.bind fun _ => .ite ?_ ?_)) _
      · exact fun tokens => (isPredicate_gives shape tokens).imp fun _ _ => KeptOrDull.noneOrDull
      · exact fun tokens => (comprehension_gives shape tokens).imp fun _ _ => KeptOrDull.noneOrDull
      · exact matchOperator_yields shape

theorem reaches_rangeStep : Reaches (rangeStep read) IsDulled := by
  intro shape tokens
  refine orBack_gives ((?_ : Yields _ fun found : Option (Option Shape) =>
    ∀ next, found = some next → IsDulled next) tokens)
  refine .bind fun isNegated => .bindOf (predicate_yields shape) fun found hfound => ?_
  cases found with
  | some found => exact .pure (by simpa using (hfound found rfl).isDulled)
  | none =>
    refine .bind fun _ => .ite ?_ (.pure (by simp))
    exact .bind fun _ => .pure (by simpa using isDulled_other)

end

/-! ### Expressions -/

variable {depth : Nat}

theorem unary_gives (hread : PartsSound depth) (tokens : List Token) :
    Gives (unary (read depth)) tokens (Outcome tokens) := by
  refine .ifTaken (fun plus rest hplus htokens => ?_) ?_
  · obtain rfl := eq_of_beq hplus
    subst htokens
    refine (hread.unary rest).imp fun found behind hfound => ?_
    cases found with
    | none => exact Empty.cons (by simp [Token.IsFiller]) hfound
    | some shape => exact hfound.imp id .plus
  · have hother : Yields (pure (some Shape.other)) IsDulled := .pure isDulled_other
    refine (Idle.either (idle_takeIf _) (idle_takeIf _)).ite (fun rest => ?_) ?_
    · exact (Yields.bind (fun _ => hother) rest).imp fun _ _ => IsDulled.outcome
    · refine .bind (operator_gives signs tokens) fun construct rest hconstruct => ?_
      cases construct with
      | none => exact hconstruct rfl ▸ operand_gives hread _
      | some construct =>
        exact (Yields.bind (fun _ => hother) rest).imp fun _ _ => IsDulled.outcome

theorem sum_gives (hread : PartsSound depth) (tokens : List Token) :
    Gives (sum (read depth)) tokens (Outcome tokens) :=
  have hpower (tokens : List Token) : Gives (power (read depth)) tokens (Outcome tokens) :=
    operatorsFrom_gives _ _ (unary_gives hread tokens)
  have hproduct : Gives (product (read depth)) tokens (Outcome tokens) :=
    operatorsFrom_gives _ _ (gives_outcome_bind (hpower tokens) atTimeZone_gives)
  operatorsFrom_gives _ _ hproduct

theorem bitwise_gives (hread : PartsSound depth) (tokens : List Token) :
    Gives (bitwise (read depth)) tokens (Outcome tokens) :=
  gives_outcome_bind (sum_gives hread tokens) fun _ _ => iterate_gives reaches_bitwise _ _

theorem disjunction_gives (hread : PartsSound depth) (tokens : List Token) :
    Gives (disjunction (read depth)) tokens (Outcome tokens) :=
  have hrange : Gives (range (read depth)) tokens (Outcome tokens) :=
    gives_outcome_bind (bitwise_gives hread tokens) fun _ _ => iterate_gives reaches_rangeStep _ _
  have hcomparison : Gives (comparison (read depth)) tokens (Outcome tokens) :=
    operatorsFrom_gives _ _ hrange
  have hequality : Gives (equality (read depth)) tokens (Outcome tokens) :=
    operatorsFrom_gives _ _ hcomparison
  have hconjunction : Gives (conjunction (read depth)) tokens (Outcome tokens) :=
    operatorsFrom_gives _ _ hequality
  operatorsFrom_gives _ _ hconjunction

theorem assignment_gives (hread : PartsSound depth) (tokens : List Token) :
    Gives (assignment (read depth)) tokens (Outcome tokens) := by
  refine .bind (isSecond_gives _ _) ?_
  rintro isAssigned start ⟨-, rfl⟩
  refine .bind (disjunction_gives hread start) fun shape behind hshape => ?_
  extract_lets isBare target assigned
  have hassigned (ahead : List Token) (htarget : Outcome start target ahead) :
      Gives (assigned ()) ahead (Outcome start) := by
    refine .ifTaken (fun _ rest _ _ => ?_) (.pure htarget)
    exact (Yields.bind (fun _ => bothSides_yields _ _ _) rest).imp fun _ _ => IsDulled.outcome
  refine .ite (fun hbare => ?_) fun hbare =>
    hassigned behind (by simpa [target, hbare] using hshape)
  refine .bind (.any _ _) fun _ ahead _ => hassigned ahead ?_
  simpa [target, hbare] using isDulled_other.outcome

theorem expression_gives (hread : PartsSound depth) (tokens : List Token) :
    Gives (expression (read depth)) tokens (Outcome tokens) :=
  .bind (assignment_gives hread tokens) fun _ _ => aliased_outcome hread.placeholder false

end DartModels.Sql
