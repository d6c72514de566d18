import DartModels.Proofs.Sql.Dullness

namespace DartModels.Sql

open Reading

/-! ### Items between commas -/

theorem Items.snoc {item : Reading (Option Shape)} {found : Option Shape}
    {tokens behind rest : List Token} (items : Items item tokens (.mark "," :: behind))
    (reads : item behind = .ok (found, rest)) : Items item tokens rest := by
  generalize hcomma : Token.mark "," :: behind = ahead at items
  induction items with
  | none tokens => exact hcomma ▸ .more reads (.none rest)
  | more first _ ih => exact .more first (ih hcomma)

theorem EmptyPlaces.snoc {tokens start behind : List Token} (places : EmptyPlaces tokens start)
    (place : Empty start (.mark "," :: behind)) : EmptyPlaces tokens behind := by
  induction places with
  | none tokens => exact .more place (.none behind)
  | more first _ ih => exact .more first (ih place)

/-- The first thing that is found among some items, in the place where it is found. -/
def FirstItem (item : Reading (Option Shape)) (tokens : List Token) (found : List Shape × Bool)
    (rest : List Token) : Prop :=
  match found.1 with
  | [] => ∃ start, EmptyPlaces tokens start ∧ Empty start rest
  | first :: more => ∃ start behind, EmptyPlaces tokens start ∧ Outcome start (some first) behind ∧
      Items item behind rest ∧ (more = [] → found.2 = false → rest = behind)

theorem items_gives {item : Reading (Option Shape)}
    (hitem : ∀ tokens, Gives item tokens (Outcome tokens)) (tokens : List Token) :
    Gives (items item) tokens (FirstItem item tokens) := by
  refine .bind (hitem tokens) fun first behind hfirst => iterate_keeps ?_ ?_
  · rintro ⟨found, endsInComma⟩ ahead hfound
    refine .ifTaken (fun comma rest hcomma hahead => ?_) (.pure hfound)
    obtain rfl := eq_of_beq hcomma
    subst hahead
    refine .bind (.any _ _) fun next last hnext => .pure ?_
    have hplace : Outcome rest next last := (hitem rest).of_eq_ok hnext
    cases found with
    | nil =>
      obtain ⟨start, places, place⟩ := hfound
      cases next with
      | none => exact ⟨rest, places.snoc place, hplace⟩
      | some next =>
        exact ⟨rest, last, places.snoc place, hplace, .none last, fun _ _ => rfl⟩
    | cons first more =>
      obtain ⟨start, behind, places, hfirst, items, -⟩ := hfound
      refine ⟨start, behind, places, hfirst, items.snoc hnext, ?_⟩
      cases next <;> simp
  · cases first with
    | none => exact ⟨tokens, .none tokens, hfirst⟩
    | some first => exact ⟨tokens, behind, .none tokens, hfirst, .none behind, fun _ _ => rfl⟩

theorem list_gives {item : Reading (Option Shape)}
    (hitem : ∀ tokens, Gives item tokens (Outcome tokens)) (tokens : List Token) :
    Gives (list item) tokens fun found rest => ∀ first ∈ found.head?, ∃ start behind,
      EmptyPlaces tokens start ∧ Outcome start (some first) behind ∧ Items item behind rest := by
  refine .bind (items_gives hitem tokens) fun ⟨found, _⟩ rest h => .pure ?_
  cases found with
  | nil => simp
  | cons first more =>
    obtain ⟨start, behind, places, hfirst, items, -⟩ := h
    rintro _ ⟨⟩
    exact ⟨start, behind, places, hfirst, items⟩

/-! ### Functions that have rules of their own -/

/-- Apart from casts, functions with rules of their own make something of which no more is
    known than that it is a value. -/
theorem specialCall_yields {read : Reader} {function : String} {special : Reading Shape}
    (h : specialCall? read function = some special)
    (hcast : function ∉ castFunctions ++ conversionFunctions) : Yields special Shape.IsDull := by
  unfold specialCall? at h
  split at h
  all_goals cases h
  any_goals simp [castFunctions, conversionFunctions] at hcast
  all_goals
    repeat' first
      | exact .pure Shape.isDull_other
      | exact .pure Shape.isDull_aggregate
      | refine Yields.bind fun _ => ?_
      | refine Yields.ite ?_ ?_

/-! ### Casts -/

/-- A cast makes something dull, apart from that of a text to JSON. -/
theorem castTo_spec (isJson : Bool) (shape : Shape) :
    (shape.castTo isJson).IsDull ∨ ∃ content,
      isJson = true ∧ shape = .literal content ∧ shape.castTo isJson = .json content := by
  cases isJson with
  | false => cases shape <;> exact .inl Shape.isDull_other
  | true =>
    cases shape with
    | literal content => exact .inr ⟨content, rfl, rfl, rfl⟩
    | _ => exact .inl Shape.isDull_other

/-- A text is no dull shape, so it is spelled where it is found. -/
theorem Outcome.spells {tokens rest : List Token} {content : String}
    (h : Outcome tokens (some (.literal content)) rest) : Spells tokens rest (.literal content) :=
  h.resolve_left fun hdull => by simp [Shape.IsDull, Shape.content?] at hdull

/-- Behind the name of a function of some kind and a parenthesis, some tokens up to the one that
    closes it are the arguments of a call that is spelled, unless it is dull. -/
def Calls (isNamed : Token → Prop) (tokens : List Token) (shape : Shape) (rest : List Token) :
    Prop :=
  ∀ function behind, isNamed function → rest = .mark ")" :: behind →
    Outcome (function :: .mark "(" :: tokens) (some shape) behind

theorem Shape.IsDull.calls {isNamed : Token → Prop} {tokens rest : List Token} {shape : Shape}
    (h : shape.IsDull) : Calls isNamed tokens shape rest :=
  fun _ _ _ _ => .inl h

/-- A cast is a call if it is spelled wherever it makes JSON of a text. -/
theorem Calls.castTo {isNamed : Token → Prop} {tokens rest : List Token} {isJson : Bool}
    {found : Shape} (hspells : ∀ content, isJson = true → found = .literal content →
      ∀ function behind, isNamed function → rest = .mark ")" :: behind →
        Spells (function :: .mark "(" :: tokens) behind (.json content)) :
    Calls isNamed tokens (found.castTo isJson) rest := by
  obtain hdull | ⟨content, hjson, hfound, hcast⟩ := castTo_spec isJson found
  · exact hdull.calls
  · intro function behind hname hrest
    rw [hcast]
    exact .inr (hspells content hjson hfound function behind hname hrest)

section

variable {depth : Nat}

theorem castCall_gives (hread : ∀ tokens, Gives (read depth .assignment) tokens (Outcome tokens))
    (construct : String) (tokens : List Token) :
    Gives (castCall (read depth) construct) tokens
      (Calls (inCapitals ·.name ∈ castFunctions) tokens) := by
  refine .bind (hread tokens) fun value ahead hvalue => ?_
  refine .ifTaken (fun word behind has hahead => ?_) ?_
  · subst hahead
    refine .bind (isNext_gives _ _) ?_
    rintro isCharacter ahead ⟨-, rfl⟩
    refine .bind (.any _ _) fun type options htype => .bind (.any _ _) fun _ rest htold => ?_
    refine .bind (need_gives _ _ _ _) ?_
    rintro found _ ⟨rfl, rfl⟩
    split
    · next isJson hasParameters =>
      refine .pure (.castTo ?_)
      rintro content rfl rfl function behind hname rfl
      exact .castCall hname hvalue.spells has ⟨depth, false, hasParameters, htype⟩
        ⟨depth, isCharacter, true, htold⟩
    · exact .pure Shape.isDull_other.calls
  · have hother : Yields (pure Shape.other) Shape.IsDull := .pure Shape.isDull_other
    exact (Yields.bind (fun _ => .bind fun _ => .bind fun _ => .bind fun _ => hother) _).imp
      fun _ _ => Shape.IsDull.calls

theorem conversionCall_gives
    (hread : ∀ tokens, Gives (read depth .bitwise) tokens (Outcome tokens)) (construct : String)
    (tokens : List Token) :
    Gives (conversionCall (read depth) construct) tokens
      (Calls (inCapitals ·.name ∈ conversionFunctions) tokens) := by
  refine .bind (hread tokens) fun value ahead hvalue => .ifTaken (fun _ rest _ _ => ?_) ?_
  · have hother : Yields (pure Shape.other) Shape.IsDull := .pure Shape.isDull_other
    exact (Yields.bind (fun _ => .bind fun _ => hother) _).imp fun _ _ => Shape.IsDull.calls
  · refine .ifTaken (fun comma typed hcomma hahead => ?_) ?_
    · obtain rfl := eq_of_beq hcomma
      subst hahead
      refine .bind (.any _ _) fun type rest htype => .bind (need_gives _ _ _ _) ?_
      rintro found _ ⟨rfl, rfl⟩
      refine .bind (need_gives _ _ _ _) ?_
      rintro type _ ⟨rfl, rfl⟩
      split
      · next isJson hasParameters =>
        refine .pure (.castTo ?_)
        rintro content rfl rfl function behind hname rfl
        exact .conversion hname hvalue.spells ⟨depth, false, hasParameters, htype⟩
      · exact .pure Shape.isDull_other.calls
    · exact .pure_bind (.bind (.any _ _) fun _ _ _ => .fail_bind)

/-! ### Other calls -/

theorem FurtherArguments.of_items {isAliased : Bool} {tokens rest : List Token}
    (items : Items (read depth (.argument isAliased)) tokens rest) : FurtherArguments tokens rest :=
  ⟨depth, isAliased, items⟩

theorem checkCount_gives (signature : Signature) (count : Nat) (tokens : List Token) :
    Gives (checkCount signature count) tokens fun _ rest => rest = tokens := by
  unfold checkCount
  extract_lets most
  have hmost : Gives (most ()) tokens fun _ rest => rest = tokens := by
    unfold most
    split
    · exact .ite (fun _ => .fail) fun _ => .pure rfl
    · exact .pure rfl
  split
  · exact .fail_bind
  · exact hmost

theorem commonCall_gives
    (hread : ∀ isAliased tokens, Gives (read depth (.argument isAliased)) tokens (Outcome tokens))
    (name : String) (tokens : List Token) :
    Gives (commonCall (read depth) name false) tokens
      (Calls (fun function => function.isCallable ∧ function.name = name) tokens) := by
  unfold commonCall
  extract_lets function
  rw [if_neg Bool.false_ne_true]
  split
  · refine .bind (list_gives (hread _) tokens) fun arguments rest harguments => ?_
    refine .bind (checkCount_gives _ _ _) ?_
    rintro _ _ rfl
    refine .ite (fun hjson => .pure ?_) fun _ => .pure ?_
    · obtain hdull | ⟨content, -, hfirst, hcast⟩ := castTo_spec true (arguments.head?.getD .other)
      · exact hdull.calls
      · rintro token ahead ⟨-, rfl⟩ rfl
        have hhead : arguments.head? = some (.literal content) := by
          cases arguments <;> simp_all
        obtain ⟨start, behind, places, hvalue, items⟩ := harguments _ hhead
        rw [hcast]
        exact .inr (.parsed (by simpa using hjson) places hvalue.spells (.of_items items))
    · refine Shape.IsDull.calls ?_
      split
      · exact Shape.isDull_aggregate
      · exact Shape.isDull_other
  · refine .bind (list_gives (hread _) tokens) fun arguments rest harguments => .pure ?_
    cases arguments with
    | nil => exact Shape.IsDull.calls ⟨rfl, by simp [Shape.stripped]⟩
    | cons first more =>
      obtain ⟨start, behind, places, hfirst, items⟩ := harguments first rfl
      by_cases hcontent : first.content? = none
      · exact Shape.IsDull.calls ⟨rfl, by simp [Shape.stripped, hcontent]⟩
      · rintro function ahead ⟨hcallable, rfl⟩ rfl
        have hspells : Spells start behind first :=
          hfirst.resolve_left fun hdull => hcontent hdull.1
        exact .inr (.call hcallable places (by simpa [Option.isSome_iff_ne_none] using hcontent)
          hspells (.of_items items))

/-- What goes on a call is read behind its closing parenthesis. -/
theorem closed_gives {isNamed : Token → Prop} {function : Token} (hname : isNamed function)
    {shape : Shape} {tokens ahead : List Token} (hshape : Calls isNamed tokens shape ahead) :
    Gives (do expectMark ")"; windowed (read depth) shape) ahead fun found rest =>
      Outcome (function :: .mark "(" :: tokens) (some found) rest := by
  refine .bind (expectMark_gives ")" _) fun _ behind hclosed => ?_
  refine (windowed_gives shape behind).imp fun found rest hfound => ?_
  rcases hfound with ⟨rfl, rfl⟩ | hdull
  · exact hshape function _ hname hclosed
  · exact .inl hdull

theorem specialCall_castFunctions (read : Reader) : ∀ name ∈ castFunctions, ∃ construct,
    specialCall? read name = some (castCall read construct) := by
  simp only [castFunctions, List.forall_mem_cons]
  exact ⟨⟨_, rfl⟩, ⟨_, rfl⟩, ⟨_, rfl⟩, by simp⟩

theorem specialCall_conversionFunctions (read : Reader) : ∀ name ∈ conversionFunctions,
    ∃ construct, specialCall? read name = some (conversionCall read construct) := by
  simp only [conversionFunctions, List.forall_mem_cons]
  exact ⟨⟨_, rfl⟩, ⟨_, rfl⟩, by simp⟩

theorem specialCall_gives (hread : PartsSound depth) {token : Token} {special : Reading Shape}
    (h : specialCall? (read depth) (inCapitals token.name) = some special) (tokens : List Token) :
    Gives special tokens (Calls (token = ·) tokens) := by
  by_cases hcast : inCapitals token.name ∈ castFunctions ++ conversionFunctions
  · rcases List.mem_append.mp hcast with hname | hname
    · obtain ⟨construct, hspecial⟩ := specialCall_castFunctions (read depth) _ hname
      obtain rfl := Option.some_inj.mp (hspecial.symm.trans h)
      refine (castCall_gives hread.assignment construct tokens).imp fun _ _ hshape => ?_
      rintro _ behind rfl
      exact hshape token behind hname
    · obtain ⟨construct, hspecial⟩ := specialCall_conversionFunctions (read depth) _ hname
      obtain rfl := Option.some_inj.mp (hspecial.symm.trans h)
      refine (conversionCall_gives hread.bitwise construct tokens).imp fun _ _ hshape => ?_
      rintro _ behind rfl
      exact hshape token behind hname
  · exact (specialCall_yields h hcast tokens).imp fun _ _ => Shape.IsDull.calls

theorem callBehind_gives (hread : PartsSound depth) {token : Token}
    (hcallable : token.isCallable) (tokens : List Token) :
    Gives (callBehind (read depth) plainStyle token) tokens fun shape rest =>
      Outcome (token :: .mark "(" :: tokens) (some shape) rest := by
  have hplain : ¬ plainStyle.isQualified = true := Bool.false_ne_true
  unfold callBehind
  extract_lets function
  rw [if_neg hplain]
  split
  · next special hspecial =>
    exact .bind (specialCall_gives hread hspecial tokens) fun _ _ => closed_gives rfl
  · refine .bind (isNext_gives _ _) ?_
    rintro isQuery ahead ⟨-, rfl⟩
    refine .ite (fun _ => ?_) fun _ => ?_
    · have hother : Yields (pure Shape.other) Shape.IsDull := .pure Shape.isDull_other
      exact (Yields.bind (fun _ => .bind fun _ => hother) _).imp fun _ _ => .inl
    · exact .bind (commonCall_gives hread.argument token.name ahead) fun _ _ =>
        closed_gives ⟨hcallable, rfl⟩

theorem usualCall_gives (hread : PartsSound depth) (tokens : List Token) :
    Gives (usualCall (read depth) plainStyle) tokens (IdleOrFound tokens) := by
  refine .bind (get_gives _) ?_
  rintro _ ahead ⟨rfl, rfl⟩
  split
  · exact .pure (.inl ⟨rfl, rfl⟩)
  · refine .ite (fun hcallable => ?_) fun _ => .pure (.inl ⟨rfl, rfl⟩)
    refine .bind (set_gives _ _) ?_
    rintro _ arguments rfl
    exact .bind (callBehind_gives hread hcallable arguments) fun shape _ hshape =>
      .pure (.inr ⟨shape, rfl, hshape⟩)
  · refine .ite (fun _ => ?_) fun _ => .pure (.inl ⟨rfl, rfl⟩)
    exact .bind (.any _ _) fun _ _ _ => .pure keptOrDull_other.idleOrFound

theorem caseDistinction_yields {read : Reader} : Yields (caseDistinction read) Shape.IsDull := by
  refine .bind fun _ => .bind fun hasBranch => .bind fun _ => ?_
  have hbranch : Yields (do
      expect (.lacking "ifs" "functions.Case") (pure hasBranch)
      return Shape.other) Shape.IsDull :=
    .bind fun _ => .pure Shape.isDull_other
  have hend (endsWithin : Bool) : Yields (do
      let isEnded ← keyword "END"
      if !isEnded && !endsWithin then failBefore (.expected "END after CASE")
      expect (.lacking "ifs" "functions.Case") (pure hasBranch)
      return Shape.other) Shape.IsDull :=
    .bind fun _ => .ite (.bind fun _ => hbranch) hbranch
  exact .ite (.bind hend) (.bind hend)

theorem ifDistinction_yields {read : Reader} : Yields (ifDistinction read) NoneOrDull := by
  have hother : Yields (pure (some Shape.other)) NoneOrDull := .pure noneOrDull_other
  refine .bind fun _ => .ite (.bind fun _ => .bind fun _ => .bind fun _ => ?_) (.bind ?_)
  · exact .ite (.bind fun _ => .bind fun _ => hother) (.bind fun _ => hother)
  · rintro (_ | _)
    · exact .pure noneOrDull_none
    · refine .bind fun _ => .bind fun value => .bind fun _ => ?_
      exact .ite (.bind fun _ => .bind fun _ => .bind fun _ => hother)
        (.bind fun _ => .bind fun _ => hother)

theorem bareCall_yields {read : Reader} (function : String) :
    Yields (bareCall read function) NoneOrDull := by
  have hwindowed {shape : Shape} (hshape : shape.IsDull) : Yields (do
      return some (← windowed read shape)) NoneOrDull := fun tokens =>
    .bind (windowed_gives shape tokens) fun found _ hfound => .pure <| by
      rcases hfound with ⟨rfl, -⟩ | hdull
      · exact hshape.isDulled.noneOrDull
      · exact hdull.isDulled.noneOrDull
  have hother := hwindowed Shape.isDull_other
  have hnone : Yields (pure (none : Option Shape)) NoneOrDull := .pure noneOrDull_none
  unfold bareCall
  split
  · exact .bind fun _ => hother
  · exact .bind fun _ => hother
  · exact .bind fun _ => .ite hnone (.bindOf caseDistinction_yields fun _ => hwindowed)
  · exact .bind fun _ => hother
  · refine .bindOf ifDistinction_yields fun found hfound => ?_
    cases found with
    | none => exact hnone
    | some shape => exact hwindowed (hfound shape rfl)
  · refine .bind fun _ => .ite (.bind fun sequence => .bind fun _ => ?_) hnone
    have hneed : Yields (do
        let _ ← need "this" "functions.NextValueFor" sequence
        return some (← windowed read .other)) NoneOrDull :=
      .bind fun _ => hother
    exact .ite (.bind fun _ => hneed) hneed
  · exact hnone

theorem call_gives (hread : PartsSound depth) (tokens : List Token) :
    Gives (call (read depth) plainStyle) tokens (IdleOrFound tokens) := by
  refine .bind (get_gives _) ?_
  rintro _ ahead ⟨rfl, rfl⟩
  split
  · extract_lets usual
    refine .ite (fun _ => ?_) fun _ => usualCall_gives hread _
    refine .bind (noneOrDull_orBack (.bind fun _ => bareCall_yields _) _) ?_
    rintro found _ (⟨rfl, rfl⟩ | ⟨shape, rfl, hdull⟩)
    · exact usualCall_gives hread _
    · exact .pure (.inr ⟨shape, rfl, .inl hdull⟩)
  · exact usualCall_gives hread _

theorem function_gives (hread : PartsSound depth) (tokens : List Token) :
    Gives (function (read depth) plainStyle) tokens (Outcome tokens) := by
  refine .bind (get_gives _) ?_
  rintro _ ahead ⟨rfl, rfl⟩
  split
  · next token rest =>
    refine .ite (fun hletters => ?_) fun _ => .pure (empty_refl _)
    refine .bind (set_gives _ _) ?_
    rintro _ _ rfl
    refine .bind (call_gives hread _) fun found behind hfound => ?_
    refine .bind (takeIf_gives _ _) fun isClosed last hclosed => .pure ?_
    rcases hfound with ⟨rfl, rfl⟩ | ⟨shape, rfl, hshape⟩
    · rcases hclosed with ⟨-, rfl⟩ | ⟨-, token, hmark, rfl⟩
      · exact ⟨[.mark "\x7b", _], rfl, by simp [Token.IsFiller, hletters]⟩
      · rw [eq_of_beq hmark]
        exact ⟨[.mark "\x7b", _, .mark "\x7d"], rfl, by simp [Token.IsFiller, hletters]⟩
    · refine hshape.imp id fun hspells => ?_
      rcases hclosed with ⟨-, rfl⟩ | ⟨-, token, hmark, rfl⟩
      · exact .opened hletters hspells
      · rw [eq_of_beq hmark] at hspells
        exact .braces hletters hspells
  · exact (call_gives hread _).imp fun _ _ => IdleOrFound.outcome

/-- Only a call in braces may take something where nothing is found. -/
theorem function_idleOrFound (hread : PartsSound depth) {tokens : List Token}
    (hbrace : tokens.head? ≠ some (.mark "\x7b")) :
    Gives (function (read depth) plainStyle) tokens (IdleOrFound tokens) := by
  refine .bind (get_gives _) ?_
  rintro _ ahead ⟨rfl, rfl⟩
  split
  · exact absurd rfl hbrace
  · exact call_gives hread _

/-! ### Arguments -/

theorem lambda_gives {read : Reader} (tokens : List Token) :
    Gives (lambda read) tokens (KeptOrDull tokens none) := by
  refine noneOrDull_orBack (.bind fun start => ?_) tokens
  extract_lets found behindNames
  have hfound : Yields (found ()) NoneOrDull := .pure noneOrDull_other
  have hbehind (names : List Shape) : Yields (behindNames names) NoneOrDull := by
    refine .bind fun isLambda => ?_
    extract_lets behindArrow
    have harrow (isNamed : Bool) : Yields (behindArrow isNamed) NoneOrDull :=
      .ite (.pure noneOrDull_none) (.bind fun _ => .ite (.bind fun _ => .bind fun _ => hfound)
        (.bind fun _ => .bind fun _ => hfound))
    exact .ite (.bind harrow) (.bind harrow)
  refine .bind fun _ => .ite (.bind fun _ => .bind fun _ => ?_) (.bind fun _ => .bind hbehind)
  exact .ite (.bind fun _ => .bind hbehind) (.bind hbehind)

theorem expressionOrQuery_gives (hread : PartsSound depth) (isAliased : Bool)
    (tokens : List Token) :
    Gives (expressionOrQuery (read depth) isAliased) tokens (Outcome tokens) := by
  refine .bind (hread.assignment tokens) fun shape behind hshape => ?_
  extract_lets joined
  have hjoined (shape : Option Shape) (behind : List Token) (hshape : Outcome tokens shape behind) :
      Gives (joined shape) behind (Outcome tokens) := by
    cases shape with
    | none => exact (hread.query behind).imp fun _ _ h => h.outcome hshape
    | some shape =>
      refine .bind (joinedQueries_gives shape behind) fun found rest hfound => .pure ?_
      rcases hfound with ⟨rfl, rfl⟩ | hdull
      · exact hshape
      · exact .inl hdull
  refine .ite (fun _ => .bind (aliased_outcome hread.placeholder true hshape) hjoined) fun _ => ?_
  exact .pure_bind (hjoined shape behind hshape)

theorem Outcome.all {word : Token} {tokens rest : List Token} {found : Option Shape}
    (h : Outcome tokens found rest) (hall : word.isKeyword "ALL") :
    Outcome (word :: tokens) found rest := by
  cases found with
  | none => exact Empty.cons (by simp [Token.IsFiller, hall]) h
  | some shape => exact h.imp id (.all hall)

theorem argument_gives (hread : PartsSound depth) (isAliased : Bool) (tokens : List Token) :
    Gives (argument (read depth) isAliased) tokens (Outcome tokens) := by
  refine .bind (lambda_gives tokens) ?_
  rintro found _ (⟨rfl, rfl⟩ | ⟨shape, rfl, hdull⟩)
  · refine .ifTaken (fun _ rest _ _ => ?_) ?_
    · refine .bind (.any _ _) fun _ behind _ => (argumentClauses_gives _ _).imp fun found _ h => ?_
      exact h.outcome (.inl Shape.isDull_other)
    · refine .bind (takeIf_gives _ _) ?_
      rintro _ behind (⟨rfl, rfl⟩ | ⟨rfl, word, hall, rfl⟩)
      · exact gives_outcome_bind (expressionOrQuery_gives hread _ _) argumentClauses_gives
      · exact .imp (gives_outcome_bind (expressionOrQuery_gives hread _ _) argumentClauses_gives)
          fun _ _ h => h.all hall
  · exact .pure (.inl hdull)

end

end DartModels.Sql
