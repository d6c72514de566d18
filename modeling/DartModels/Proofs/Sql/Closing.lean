import DartModels.Proofs.Sql.Reading
import DartModels.Sql.Statement

namespace DartModels.Sql

open Reading

variable {read : Reader} {tokens rest : List Token} {shape : Shape}

theorem operator_closed {construct? : Token → Option String} (h : Closed tokens)
    (hclosing : construct? (.mark ")") = none) (hcomma : construct? (.mark ",") = none) :
    operator construct? tokens = .ok (none, tokens) := by
  have hnone : tokens.head?.bind construct? = none := by
    rw [Option.bind_eq_none_iff]
    intro token htoken
    obtain rfl | rfl := h token htoken
    · exact hclosing
    · exact hcomma
  simp [operator, hnone]

theorem operatorsFrom_closed {first operand : Reading (Option Shape)}
    {construct? : Token → Option String} (hfirst : first tokens = .ok (some shape, rest))
    (h : Closed rest) (hclosing : construct? (.mark ")") = none)
    (hcomma : construct? (.mark ",") = none) :
    operatorsFrom first operand construct? tokens = .ok (some shape, rest) := by
  rw [operatorsFrom, bind_run, hfirst, ok_bind]
  refine iterate_stop ?_
  simp [operator_closed h hclosing hcomma]

theorem power_closed (hfirst : unary read tokens = .ok (some shape, rest)) (h : Closed rest) :
    power read tokens = .ok (some shape, rest) :=
  operatorsFrom_closed hfirst h (by decide) (by decide)

theorem atTimeZone_closed (h : Closed tokens) :
    atTimeZone read (some shape) tokens = .ok (some shape, tokens) :=
  iterate_stop (by simp [h.words])

theorem product_closed (hfirst : unary read tokens = .ok (some shape, rest)) (h : Closed rest) :
    product read tokens = .ok (some shape, rest) := by
  refine operatorsFrom_closed ?_ h (by decide) (by decide)
  rw [bind_run, power_closed hfirst h]
  exact atTimeZone_closed h

theorem sum_closed (hfirst : unary read tokens = .ok (some shape, rest)) (h : Closed rest) :
    sum read tokens = .ok (some shape, rest) :=
  operatorsFrom_closed (product_closed hfirst h) h (by decide) (by decide)

theorem bitwise_closed (hfirst : unary read tokens = .ok (some shape, rest)) (h : Closed rest) :
    bitwise read tokens = .ok (some shape, rest) := by
  have hdoubled (spelling : String) (hclosing : spelling ≠ ")") (hcomma : spelling ≠ ",") :
      doubled spelling rest = .ok (false, rest) := by
    have hnext : isNext (· == .mark spelling) rest = .ok (false, rest) :=
      isNext_of_head (h.head_eq_false (by simp [hclosing.symm]) (by simp [hcomma.symm]))
    simp [doubled, hnext, isSecond]
  rw [bitwise, bind_run, sum_closed hfirst h, ok_bind]
  refine iterate_stop ?_
  have hoperator : operator bitOperators rest = .ok (none, rest) :=
    operator_closed h (by decide) (by decide)
  simp [h.mark, hdoubled, hoperator]

theorem predicate_closed (h : Closed tokens) :
    predicate read (some shape) tokens = .ok (none, tokens) := by
  have hnext (capitals : String) : isNext (·.isKeyword capitals) tokens = .ok (false, tokens) :=
    isNext_of_head (h.head_eq_false rfl rfl)
  have hoperator : operator matchOperators tokens = .ok (none, tokens) :=
    operator_closed h (by decide) (by decide)
  simp [predicate, h.keyword, h.mark, hnext, hoperator]

theorem rangeStep_closed (h : Closed tokens) :
    rangeStep read (some shape) tokens = .ok (none, tokens) := by
  refine orBack_none tokens ?_
  simp [either, h.keyword, h.mark, h.keywordAmong, predicate_closed h]

theorem range_closed (hfirst : unary read tokens = .ok (some shape, rest)) (h : Closed rest) :
    range read tokens = .ok (some shape, rest) := by
  rw [range, bind_run, bitwise_closed hfirst h, ok_bind]
  exact iterate_stop (rangeStep_closed h)

theorem equality_closed (hfirst : unary read tokens = .ok (some shape, rest)) (h : Closed rest) :
    equality read tokens = .ok (some shape, rest) :=
  operatorsFrom_closed (operatorsFrom_closed (range_closed hfirst h) h (by decide) (by decide)) h
    (by decide) (by decide)

theorem disjunction_closed (hfirst : unary read tokens = .ok (some shape, rest))
    (h : Closed rest) : disjunction read tokens = .ok (some shape, rest) :=
  operatorsFrom_closed (operatorsFrom_closed (equality_closed hfirst h) h (by decide) (by decide)) h
    (by decide) (by decide)

theorem assignment_closed (hfirst : unary read tokens = .ok (some shape, rest))
    (h : Closed rest) : assignment read tokens = .ok (some shape, rest) := by
  simp [assignment, isSecond, disjunction_closed hfirst h, h.mark]

theorem placeholder_closed (h : Closed tokens) : placeholder read tokens = .ok (none, tokens) := by
  refine orBack_none tokens ?_
  have hmark : takeIf Token.marksParameter tokens = .ok (false, tokens) :=
    takeIf_of_head (h.head_eq_false rfl rfl)
  simp [h.mark, hmark]

theorem isCountNext_closed (h : Closed tokens) : isCountNext read tokens = .ok (false, tokens) := by
  simp [isCountNext, attempt, limitClause, offsetClause, h.keyword]

theorem nameAmong_closed {isAllowed : Token → Bool} (depth : Nat) (h : Closed tokens)
    (hclosing : isAllowed (.mark ")") = false) (hcomma : isAllowed (.mark ",") = false) :
    nameAmong (Sql.read (depth + 1)) isAllowed tokens = .ok (none, tokens) := by
  have hplaceholder : Sql.read (depth + 1) .placeholder tokens = .ok (none, tokens) :=
    placeholder_closed h
  unfold nameAmong
  cases tokens with
  | nil => simp [hplaceholder]
  | cons token tokens =>
    obtain rfl | rfl := h token rfl
    · simp [hplaceholder, hclosing]
    · simp [hplaceholder, hcomma]

theorem aliased_closed (depth : Nat) (needsWord : Bool) (h : Closed tokens) :
    aliased (Sql.read (depth + 1)) needsWord (some shape) tokens = .ok (some shape, tokens) := by
  have hname : name (Sql.read (depth + 1)) tokens = .ok (none, tokens) :=
    nameAmong_closed depth h rfl rfl
  simp [aliased, isCountNext_closed h, h.keyword, h.mark, hname]

theorem bracketed_closed (h : Closed tokens) :
    bracketed read (some shape) tokens = .ok (some shape, tokens) :=
  iterate_stop (by simp [h.mark])

theorem columnOperators_closed (h : Closed tokens) :
    columnOperators read shape tokens = .ok (shape, tokens) := by
  rw [columnOperators, bind_run, bracketed_closed h, ok_bind]
  exact iterate_stop (by simp [h.mark])

theorem arrayMarks_closed (use : TypeUse) (followsArray : Bool) (h : Closed tokens) :
    arrayMarks read use followsArray tokens = .ok (false, tokens) := by
  have hkeyword := h.keyword "ARRAY"
  simp only [arrayMarks, bind_run, get_run, ok_bind, hkeyword]
  rw [iterate_stop (by simp [h.mark])]
  simp

theorem nullTreatment_closed (h : Closed tokens) :
    nullTreatment (some shape) tokens = .ok (some shape, tokens) := by
  simp [nullTreatment, either, h.words]

theorem argumentClauses_closed (h : Closed tokens) :
    argumentClauses read (some shape) tokens = .ok (some shape, tokens) := by
  simp [argumentClauses, nullTreatment_closed h, h.keyword, orderClause, either, limitClause,
    fetchClause]

theorem joinedQuery_closed (h : Closed tokens) : joinedQuery read tokens = .ok (none, tokens) := by
  refine orBack_none tokens ?_
  have hjoined : tokens.head?.bind joinedBy? = none := by
    rw [Option.bind_eq_none_iff]
    intro token htoken
    obtain rfl | rfl := h token htoken
    · rfl
    · rfl
  simp [joinStyle, h.keyword, h.keywordAmong, hjoined]

theorem joinedQueries_closed (h : Closed tokens) :
    joinedQueries read shape tokens = .ok (shape, tokens) :=
  iterate_stop (joinedQuery_closed h)

theorem window_closed (h : Closed tokens) : window read tokens = .ok (none, tokens) := by
  simp [window, h.keyword]

theorem windowed_closed (h : Closed tokens) :
    windowed read shape tokens = .ok (shape, tokens) := by
  have hfilter : isNext (·.isKeyword "FILTER") tokens = .ok (false, tokens) :=
    isNext_of_head (h.head_eq_false rfl rfl)
  simp [-bind_pure_comp, windowed, h.words, hfilter, isSecond, nullTreatment_closed h]
  rw [iterate_stop (by simp [window_closed h]), ok_bind]

end DartModels.Sql
