import DartModels.Proofs.Sql.Gives
import DartModels.Proofs.Sql.Grammar

namespace DartModels.Sql

open Reading

namespace Shape

theorem isDull_other : IsDull .other :=
  ⟨rfl, by simp [stripped]⟩

theorem isDull_aggregate : IsDull .aggregate :=
  ⟨rfl, by simp [stripped]⟩

theorem isDull_number : IsDull .number :=
  ⟨rfl, by simp [stripped]⟩

theorem isDull_query : IsDull .query :=
  ⟨rfl, by simp [stripped]⟩

theorem isDull_rows : IsDull .rows :=
  ⟨rfl, by simp [stripped]⟩

theorem isDull_name (spelling : String) (isPlain : Bool) : IsDull (.name spelling isPlain) :=
  ⟨rfl, by simp [stripped]⟩

theorem isDull_dataType (isJson hasParameters : Bool) : IsDull (.dataType isJson hasParameters) :=
  ⟨rfl, by simp [stripped]⟩

theorem IsDull.parenthesized {shape : Shape} (h : shape.IsDull) : IsDull (.parenthesized shape) :=
  ⟨rfl, h.2⟩

end Shape

/-- A dull shape is given. -/
def IsDulled (found : Option Shape) : Prop :=
  ∃ shape, found = some shape ∧ shape.IsDull

theorem Shape.IsDull.isDulled {shape : Shape} (h : shape.IsDull) : IsDulled (some shape) :=
  ⟨shape, rfl, h⟩

theorem isDulled_other : IsDulled (some .other) :=
  Shape.isDull_other.isDulled

/-- What is given is what was there before, and nothing is taken, or it is dull. -/
def KeptOrDull (tokens : List Token) (before found : Option Shape) (rest : List Token) : Prop :=
  found = before ∧ rest = tokens ∨ IsDulled found

/-- Nothing is given, or a dull shape is. -/
def NoneOrDull (found : Option Shape) : Prop :=
  ∀ shape, found = some shape → shape.IsDull

theorem noneOrDull_none : NoneOrDull none := by
  simp [NoneOrDull]

theorem IsDulled.noneOrDull {found : Option Shape} (h : IsDulled found) : NoneOrDull found := by
  obtain ⟨dull, rfl, hdull⟩ := h
  rintro shape ⟨⟩
  exact hdull

theorem noneOrDull_other : NoneOrDull (some .other) :=
  isDulled_other.noneOrDull

theorem noneOrDull_orBack {reading : Reading (Option Shape)} (h : Yields reading NoneOrDull)
    (tokens : List Token) : Gives (orBack reading) tokens fun found rest =>
      found = none ∧ rest = tokens ∨ IsDulled found :=
  orBack_gives (h tokens)

section

variable {read : Reader}

theorem keptOrDull_kept {tokens : List Token} {before : Option Shape} :
    KeptOrDull tokens before before tokens :=
  .inl ⟨rfl, rfl⟩

theorem keptOrDull_other {before : Option Shape} {tokens rest : List Token} :
    KeptOrDull tokens before (some .other) rest :=
  .inr isDulled_other

theorem KeptOrDull.noneOrDull {found : Option Shape} {tokens rest : List Token}
    (h : KeptOrDull tokens none found rest) : NoneOrDull found := by
  rcases h with ⟨rfl, -⟩ | hdulled
  · exact noneOrDull_none
  · exact hdulled.noneOrDull

theorem empty_refl (tokens : List Token) : Empty tokens tokens :=
  ⟨[], rfl, by simp⟩

theorem Empty.cons {filler : Token} {tokens rest : List Token} (hfiller : filler.IsFiller)
    (h : Empty tokens rest) : Empty (filler :: tokens) rest := by
  obtain ⟨fillers, rfl, hfillers⟩ := h
  exact ⟨filler :: fillers, rfl, List.forall_mem_cons.mpr ⟨hfiller, hfillers⟩⟩

theorem Empty.snoc {filler : Token} {tokens rest : List Token} (h : Empty tokens (filler :: rest))
    (hfiller : filler.IsFiller) : Empty tokens rest := by
  obtain ⟨fillers, rfl, hfillers⟩ := h
  exact ⟨fillers ++ [filler], by simp,
    List.forall_mem_append.mpr ⟨hfillers, List.forall_mem_singleton.mpr hfiller⟩⟩

theorem IsDulled.outcome {tokens rest : List Token} {found : Option Shape} (h : IsDulled found) :
    Outcome tokens found rest := by
  obtain ⟨shape, rfl, hdull⟩ := h
  exact .inl hdull

/-- What is kept stays what it was. -/
theorem KeptOrDull.outcome {tokens behind rest : List Token} {before found : Option Shape}
    (h : KeptOrDull behind before found rest)
    (hbefore : Outcome tokens before behind) : Outcome tokens found rest := by
  rcases h with ⟨rfl, rfl⟩ | hdulled
  · exact hbefore
  · exact hdulled.outcome

/-- A rule that keeps what it is given may stand behind any rule. -/
theorem gives_outcome_bind {tokens : List Token} {first : Reading (Option Shape)}
    {next : Option Shape → Reading (Option Shape)} (hfirst : Gives first tokens (Outcome tokens))
    (hnext : ∀ shape tokens, Gives (next shape) tokens (KeptOrDull tokens shape)) :
    Gives (first >>= next) tokens (Outcome tokens) :=
  .bind hfirst fun shape behind hshape => (hnext shape behind).imp fun _ _ h => h.outcome hshape

/-! ### Names -/

theorem placeholder_gives (tokens : List Token) :
    Gives (placeholder read) tokens (KeptOrDull tokens none) := by
  refine noneOrDull_orBack ?_ tokens
  have hother : Yields (pure (some Shape.other)) NoneOrDull := .pure noneOrDull_other
  have hnone : Yields (pure (none : Option Shape)) NoneOrDull := .pure noneOrDull_none
  refine .bind fun _ => .ite hother (.bind fun _ => .ite ?_ (.bind fun _ => ?_))
  · refine .bind fun _ => .ite hother (.bind fun _ => .ite hother ?_)
    exact .bind fun _ => .ite hother (.bind fun _ => hother)
  · refine .ite (.bind fun _ => .ite hother hnone) (.bind fun _ => .ite (.bind fun _ => ?_) hnone)
    exact .ite (.bind fun _ => .bind fun _ => hother) (.bind fun _ => hother)

/-- The placeholders of a reader are dull. -/
def PlaceholdersDull (read : Reader) : Prop :=
  ∀ tokens, Gives (read .placeholder) tokens (KeptOrDull tokens none)

theorem nameAmong_gives (hread : PlaceholdersDull read) (isAllowed : Token → Bool)
    (tokens : List Token) : Gives (nameAmong read isAllowed) tokens (KeptOrDull tokens none) := by
  refine .bind (get_gives _) ?_
  rintro _ ahead ⟨rfl, rfl⟩
  split
  · exact .bind (set_gives _ _) fun _ _ _ => .pure (.inr (Shape.isDull_name _ _).isDulled)
  · refine .bind (hread ahead) ?_
    rintro _ rest (⟨rfl, rfl⟩ | ⟨shape, rfl, hdull⟩)
    · refine .bind (get_gives _) ?_
      rintro _ _ ⟨rfl, rfl⟩
      split
      · refine .ite (fun _ => ?_) fun _ => .pure keptOrDull_kept
        exact .bind (set_gives _ _) fun _ _ _ => .pure (.inr (Shape.isDull_name _ _).isDulled)
      · exact .pure keptOrDull_kept
    · exact .pure (.inr hdull.isDulled)

theorem isCountNext_gives (tokens : List Token) :
    Gives (isCountNext read) tokens fun _ rest => rest = tokens := by
  refine .bind (get_gives _) ?_
  rintro _ _ ⟨rfl, rfl⟩
  refine .bind (.any _ _) fun _ behind _ => .bind (set_gives _ _) ?_
  rintro _ _ rfl
  exact .pure rfl

/-- A shape is kept where it gets no alias, and a word for an alias that is not there may be
    taken. -/
theorem aliased_gives (hread : PlaceholdersDull read) (needsWord : Bool) (shape : Option Shape)
    (tokens : List Token) :
    Gives (aliased read needsWord shape) tokens fun found rest =>
      found = shape ∧ (rest = tokens ∨ ∃ word, word.isKeyword "AS" ∧ tokens = word :: rest) ∨
        IsDulled found := by
  refine .bind (isCountNext_gives _) ?_
  rintro _ _ rfl
  refine .ite (fun _ => .pure (.inl ⟨rfl, .inl rfl⟩)) fun _ => ?_
  refine .bind (takeIf_gives _ _) fun hasWord rest htaken => ?_
  have hkept : rest = _ ∨ ∃ word : Token, word.isKeyword "AS" ∧ _ = word :: rest :=
    htaken.imp And.right And.right
  refine .ite (fun _ => .pure (.inl ⟨rfl, hkept⟩)) fun _ => ?_
  refine .ifTaken (fun _ _ _ _ => ?_) ?_
  · have hother : Yields (pure (some Shape.other)) IsDulled := .pure isDulled_other
    exact (Yields.bind (fun _ => .bind fun _ => .bind fun _ => .bind fun _ => hother) _).imp
      fun _ _ => .inr
  · have hname : Gives (if hasWord then anyName read else name read) rest
        (KeptOrDull rest none) :=
      .ite (fun _ => nameAmong_gives hread _ _) fun _ => nameAmong_gives hread _ _
    refine .bind hname ?_
    rintro _ behind (⟨rfl, rfl⟩ | ⟨aliasName, rfl, -⟩)
    · exact .pure (.inl ⟨rfl, hkept⟩)
    · exact .bind (.any _ _) fun _ _ _ => .pure (.inr isDulled_other)

theorem aliased_outcome (hread : PlaceholdersDull read) (needsWord : Bool) {shape : Option Shape}
    {tokens behind : List Token} (hshape : Outcome tokens shape behind) :
    Gives (aliased read needsWord shape) behind (Outcome tokens) := by
  refine (aliased_gives hread needsWord shape behind).imp fun found rest h => ?_
  rcases h with ⟨rfl, rfl | ⟨word, has, rfl⟩⟩ | hdulled
  · exact hshape
  · cases found with
    | none => exact Empty.snoc hshape (by simp [Token.IsFiller, has])
    | some shape => exact hshape.imp id (.as has)
  · exact hdulled.outcome

/-! ### Clauses -/

/-- A rule for a clause that a word starts gives nothing else than that it is there. -/
theorem idle_clause {isWanted : Token → Bool} {clause : Reading Bool}
    (hclause : Yields clause (· = true)) :
    Idle (do if ← takeIf isWanted then clause else return false) := fun _ =>
  .ifTaken (fun _ rest _ _ => (hclause rest).imp fun _ _ htrue hfalse => by simp [htrue] at hfalse)
    (.pure fun _ => rfl)

theorem idle_orderClause : Idle (orderClause read) :=
  idle_clause (.bind fun _ => .bind fun _ => .pure rfl)

theorem idle_limitClause : Idle (limitClause read) :=
  idle_clause (.bind fun _ => .bind fun _ => .bind fun _ =>
    have hcount (count : Option Shape) : Yields (do
        let _ ← need "expression" "query.Limit" count
        countedBy read
        return true) (· = true) :=
      .bind fun _ => .bind fun _ => .pure rfl
    .ite (.bind hcount) (.bind hcount))

theorem idle_fetchClause : Idle (fetchClause read) :=
  idle_clause (.bind fun _ => .bind fun _ =>
    have hoptions : Yields (do rowOptions; return true) (· = true) := .bind fun _ => .pure rfl
    .ite (.bind fun _ => .ite (.bind fun _ => hoptions) hoptions) hoptions)

theorem nullTreatment_gives (shape : Option Shape) (tokens : List Token) :
    Gives (nullTreatment shape) tokens (KeptOrDull tokens shape) := by
  refine .bind (Idle.either (idle_words _) (idle_words _) tokens) ?_
  rintro (_ | _) rest h
  · obtain rfl := h rfl
    exact .pure keptOrDull_kept
  · exact .bind (.any _ _) fun _ _ _ => .pure keptOrDull_other

theorem argumentClauses_gives (shape : Option Shape) (tokens : List Token) :
    Gives (argumentClauses read shape) tokens (KeptOrDull tokens shape) := by
  refine .bind (nullTreatment_gives shape tokens) fun treated rest htreated => ?_
  refine .bind (takeIf_gives _ _) ?_
  rintro _ _ (⟨rfl, rfl⟩ | ⟨rfl, -⟩)
  · refine .bind (idle_orderClause _) fun hasOrder behind horder => ?_
    refine .bind (Idle.either idle_limitClause idle_fetchClause _) fun hasCount last hcount => ?_
    refine .pure ?_
    cases hasOrder with
    | true => exact keptOrDull_other
    | false =>
      cases hasCount with
      | true => exact keptOrDull_other
      | false =>
        obtain rfl := horder rfl
        obtain rfl := hcount rfl
        exact htreated
  · have hdulled : Yields (do
        let hasOrder ← orderClause read
        let hasCount ← either (limitClause read) (fetchClause read)
        return if true || hasOrder || hasCount then some .other else treated) IsDulled :=
      .bind fun _ => .bind fun _ => .pure isDulled_other
    refine .ite (fun _ => ?_) (absurd rfl)
    exact .imp (Yields.bind (fun _ => .bind fun _ => .bind fun _ => .bind fun _ => hdulled) _)
      fun _ _ => .inr

theorem window_gives (tokens : List Token) :
    Gives (window read) tokens fun found rest => found = none → rest = tokens := by
  have hsome (isBracketed : Bool) : Yields (pure (some isBracketed)) fun found => found ≠ none :=
    .pure (by simp)
  refine .ifTaken (fun _ rest _ _ => ?_) (.pure fun _ => rfl)
  refine .imp ((?_ : Yields _ fun found : Option Bool => found ≠ none) rest)
    fun _ _ hfound hnone => absurd hnone hfound
  exact .bind fun _ => .ite (.bind fun _ => hsome _) (.bind fun _ => hsome _)

/-- Nothing is known any more of what is taken over a window. -/
theorem reaches_window : Reaches (fun state : Shape × Bool => if !state.2 then return none
    else return (← window read).map (Shape.other, ·)) fun state => state.1.IsDull := by
  intro state tokens
  refine .ite (fun _ => .pure (.inl ⟨rfl, rfl⟩)) fun _ => ?_
  refine .bind (window_gives tokens) fun found rest hfound => .pure ?_
  cases found with
  | none => exact .inl ⟨rfl, hfound rfl⟩
  | some isBracketed => exact .inr ⟨_, rfl, Shape.isDull_other⟩

theorem windowed_gives (shape : Shape) (tokens : List Token) :
    Gives (windowed read shape) tokens fun found rest =>
      found = shape ∧ rest = tokens ∨ found.IsDull := by
  refine .bind (idle_words _ _) fun isGrouped rest hgrouped => ?_
  extract_lets filtered
  have hfiltered (tokens : List Token) : Gives (filtered ()) tokens fun found rest =>
      isGrouped = false ∧ found = shape ∧ rest = tokens ∨ found.IsDull := by
    refine .bind (isNext_gives _ _) ?_
    rintro isFilter _ ⟨-, rfl⟩
    refine .bind (isSecond_gives _ _) ?_
    rintro isSecond ahead ⟨-, rfl⟩
    extract_lets hasFilter shown windows
    have hwindows (tokens : List Token) : Gives (windows ()) tokens fun found rest =>
        found = shown ∧ rest = tokens ∨ found.IsDull := by
      refine .bind (nullTreatment_gives _ _) fun treated behind htreated => ?_
      refine .bind (iterate_gives reaches_window _ behind) fun state last hstate => .pure ?_
      rcases htreated with ⟨rfl, rfl⟩ | ⟨changed, rfl, hchanged⟩
      · exact hstate.imp_left fun ⟨hstart, hlast⟩ => ⟨congrArg Prod.fst hstart, hlast⟩
      · rcases hstate with ⟨rfl, -⟩ | hdull
        · exact .inr hchanged
        · exact .inr hdull
    refine .ite (fun htrue => ?_) fun hfalse => ?_
    · have hshown : shown.IsDull := by simp [shown, htrue, Shape.isDull_other]
      refine .bind (.any _ _) fun _ _ _ => .bind (.any _ _) fun _ behind _ => ?_
      refine (hwindows behind).imp fun _ _ h => .inr ?_
      rcases h with ⟨rfl, -⟩ | hdull
      · exact hshown
      · exact hdull
    · refine (hwindows ahead).imp fun _ _ h => ?_
      cases isGrouped with
      | false => exact h.imp_left fun ⟨hfound, hrest⟩ => ⟨rfl, by simp_all [shown], hrest⟩
      | true =>
        rcases h with ⟨rfl, -⟩ | hdull
        · exact .inr (by simp [shown, Shape.isDull_other])
        · exact .inr hdull
  refine .ite (fun htrue => ?_) fun hfalse => ?_
  · refine .bind (.any _ _) fun _ behind _ => (hfiltered behind).imp fun _ _ h => ?_
    exact h.imp (fun h => by simp [htrue] at h) id
  · obtain rfl := hgrouped (by simpa using hfalse)
    exact (hfiltered rest).imp fun _ _ h => h.imp And.right id

/-! ### Queries and what goes on a value -/

theorem joinedQuery_gives (tokens : List Token) :
    Gives (joinedQuery read) tokens (KeptOrDull tokens none) := by
  refine noneOrDull_orBack (.bind fun _ => .bind fun tokens => ?_) tokens
  split
  · have hquery (construct : String) : Yields (do
        let _ ← needed "expression" construct (read (.query .joined))
        return some Shape.query) NoneOrDull :=
      .bind fun _ => .pure Shape.isDull_query.isDulled.noneOrDull
    refine .bind fun _ => .bind fun _ => .bind fun _ => .bind fun _ => .ite ?_ (hquery _)
    exact .bind fun _ => .ite (.bind fun _ => hquery _) (hquery _)
  · exact .pure noneOrDull_none

theorem joinedQueries_gives (shape : Shape) (tokens : List Token) :
    Gives (joinedQueries read shape) tokens fun found rest =>
      found = shape ∧ rest = tokens ∨ found.IsDull :=
  iterate_gives (fun _ => joinedQuery_gives) _ _

theorem bracketed_gives (shape : Option Shape) (tokens : List Token) :
    Gives (bracketed read shape) tokens (KeptOrDull tokens shape) := by
  refine iterate_gives (fun shape tokens => ?_) _ _
  have hother : ∃ next, some (some Shape.other) = some next ∧ IsDulled next :=
    ⟨_, rfl, isDulled_other⟩
  refine .ifTaken (fun _ rest _ _ => Yields.reaches ?_ _ rest)
    (.ifTaken (fun _ rest _ _ => Yields.reaches ?_ _ rest) (.pure (.inl ⟨rfl, rfl⟩)))
  · exact .bind fun _ => .bind fun _ => .ite (.bind fun _ => .pure hother) (.pure hother)
  · have hend : Yields (do
        expect (.expected "\x7d") (mark "\x7d")
        return some (some Shape.other)) fun found => ∃ next, found = some next ∧ IsDulled next :=
      .bind fun _ => .pure hother
    exact .bind fun _ => .ite (.bind fun _ => .bind fun _ => hend) (.bind fun _ => hend)

theorem fieldOf_yields (shape : Shape) : Yields (fieldOf read shape) Shape.IsDull := by
  refine .bind fun _ => .ite (.pure Shape.isDull_other) ?_
  refine .bind fun _ => .ite (.pure Shape.isDull_other) (.bind fun _ => ?_)
  extract_lets named
  have hnamed (found : Shape) : Yields (named found) Shape.IsDull := by
    cases found with
    | name => exact .pure (Shape.isDull_name _ _)
    | _ => exact .pure Shape.isDull_other
  split
  · exact .bind hnamed
  · exact .bind hnamed

theorem atTimeZone_gives (shape : Option Shape) (tokens : List Token) :
    Gives (atTimeZone read shape) tokens (KeptOrDull tokens shape) := by
  refine iterate_gives (fun shape tokens => ?_) _ _
  refine (idle_words _).ite (Yields.reaches ?_ _) (.pure (.inl ⟨rfl, rfl⟩))
  exact .bind fun _ => .bind fun _ => .bind fun _ => .pure ⟨_, rfl, isDulled_other⟩

end

/-! ### Parts -/

/-- Nothing is found and nothing is taken, or something is found. -/
def IdleOrFound (tokens : List Token) (found : Option Shape) (rest : List Token) : Prop :=
  found = none ∧ rest = tokens ∨ ∃ shape, found = some shape ∧ Outcome tokens (some shape) rest

theorem KeptOrDull.idleOrFound {tokens rest : List Token} {found : Option Shape}
    (h : KeptOrDull tokens none found rest) : IdleOrFound tokens found rest :=
  h.imp id fun ⟨shape, hfound, hdull⟩ => ⟨shape, hfound, .inl hdull⟩

theorem IdleOrFound.outcome {tokens rest : List Token} {found : Option Shape}
    (h : IdleOrFound tokens found rest) : Outcome tokens found rest := by
  rcases h with ⟨rfl, rfl⟩ | ⟨shape, rfl, hshape⟩
  · exact empty_refl _
  · exact hshape

/-- What the rules find whose parts are nested up to some depth. Of calls, only one in braces
    takes something where it finds nothing. -/
structure PartsSound (depth : Nat) : Prop where
  placeholder : PlaceholdersDull (read depth)
  description : Yields (read depth .description) (· = some .other)
  query : ∀ tokens, Gives (read depth (.query .alone)) tokens (KeptOrDull tokens none)
  dataType : ∀ mayBeCall tokens,
    Gives (read depth (.dataType mayBeCall)) tokens (KeptOrDull tokens none)
  expression : ∀ tokens, Gives (read depth .expression) tokens (Outcome tokens)
  assignment : ∀ tokens, Gives (read depth .assignment) tokens (Outcome tokens)
  bitwise : ∀ tokens, Gives (read depth .bitwise) tokens (Outcome tokens)
  unary : ∀ tokens, Gives (read depth .unary) tokens (Outcome tokens)
  argument : ∀ isAliased tokens, Gives (read depth (.argument isAliased)) tokens (Outcome tokens)
  function : ∀ tokens, Gives (read depth .function) tokens fun found rest =>
    Outcome tokens found rest ∧
      (tokens.head? ≠ some (.mark "\x7b") → IdleOrFound tokens found rest)

end DartModels.Sql
