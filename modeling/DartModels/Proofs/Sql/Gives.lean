import DartModels.Proofs.Sql.Reading

namespace DartModels.Sql.Reading

variable {α β : Type} {tokens : List Token}

/-- Whatever a rule gives for some tokens has a property, together with the tokens that it
    leaves. -/
def Gives (reading : Reading α) (tokens : List Token) (property : α → List Token → Prop) : Prop :=
  Ends (fun result => property result.1 result.2) (fun _ => True) (reading tokens)

namespace Gives

theorem of_eq_ok {reading : Reading α} {property : α → List Token → Prop} {value : α}
    {rest : List Token} (h : Gives reading tokens property)
    (hreading : reading tokens = .ok (value, rest)) : property value rest := by
  rw [Gives, hreading] at h
  exact h

theorem of_forall {reading : Reading α} {property : α → List Token → Prop}
    (h : ∀ value rest, reading tokens = .ok (value, rest) → property value rest) :
    Gives reading tokens property := by
  unfold Gives
  cases hreading : reading tokens with
  | error => trivial
  | ok result => exact h result.1 result.2 hreading

theorem any (reading : Reading α) (tokens : List Token) :
    Gives reading tokens fun value rest => reading tokens = .ok (value, rest) :=
  of_forall fun _ _ => id

theorem imp {reading : Reading α} {property weaker : α → List Token → Prop}
    (h : Gives reading tokens property)
    (himp : ∀ value rest, property value rest → weaker value rest) :
    Gives reading tokens weaker :=
  Ends.imp h (fun result => himp result.1 result.2) fun _ => id

theorem pure {property : α → List Token → Prop} {value : α} (h : property value tokens) :
    Gives (Pure.pure value) tokens property :=
  h

theorem fail {property : α → List Token → Prop} {objection : Objection} :
    Gives (Reading.fail objection) tokens property :=
  trivial

/-- A rule after another one starts from what the first one gives. -/
theorem bind {first : Reading α} {next : α → Reading β} {middle : α → List Token → Prop}
    {property : β → List Token → Prop} (hfirst : Gives first tokens middle)
    (hnext : ∀ value rest, middle value rest → Gives (next value) rest property) :
    Gives (first >>= next) tokens property := by
  rw [Gives, bind_run]
  exact Ends.bind hfirst fun result hresult => hnext result.1 result.2 hresult

theorem pure_bind {value : α} {next : α → Reading β} {property : β → List Token → Prop}
    (h : Gives (next value) tokens property) : Gives (Pure.pure value >>= next) tokens property :=
  h

theorem fail_bind {objection : Objection} {next : α → Reading β}
    {property : β → List Token → Prop} :
    Gives (Reading.fail objection >>= next) tokens property :=
  trivial

theorem ite {condition : Prop} [Decidable condition] {first second : Reading α}
    {property : α → List Token → Prop} (hfirst : condition → Gives first tokens property)
    (hsecond : ¬ condition → Gives second tokens property) :
    Gives (if condition then first else second) tokens property := by
  split
  · exact hfirst ‹_›
  · exact hsecond ‹_›

end Gives

theorem get_gives (tokens : List Token) :
    Gives (get : Reading (List Token)) tokens fun ahead rest => ahead = tokens ∧ rest = tokens :=
  ⟨rfl, rfl⟩

theorem set_gives (next tokens : List Token) :
    Gives (set next : Reading PUnit) tokens fun _ rest => rest = next :=
  rfl

/-- Whatever a rule gives has a property. -/
def Yields (reading : Reading α) (property : α → Prop) : Prop :=
  ∀ tokens, Gives reading tokens fun value _ => property value

namespace Yields

variable {property : β → Prop}

/-- Only what comes last counts. -/
theorem bind {first : Reading α} {next : α → Reading β}
    (h : ∀ value, Yields (next value) property) : Yields (first >>= next) property := fun _ =>
  .bind (.any _ _) fun value rest _ => h value rest

theorem bindOf {first : Reading α} {next : α → Reading β} {middle : α → Prop}
    (hfirst : Yields first middle) (hnext : ∀ value, middle value → Yields (next value) property) :
    Yields (first >>= next) property := fun tokens =>
  .bind (hfirst tokens) fun value rest h => hnext value h rest

theorem pure {value : β} (h : property value) : Yields (Pure.pure value) property := fun _ =>
  .pure h

theorem fail {objection : Objection} : Yields (Reading.fail objection) property := fun _ =>
  .fail

theorem ite {condition : Prop} [Decidable condition] {first second : Reading β}
    (hfirst : Yields first property) (hsecond : Yields second property) :
    Yields (if condition then first else second) property := fun tokens =>
  .ite (fun _ => hfirst tokens) fun _ => hsecond tokens

theorem imp {reading : Reading β} {weaker : β → Prop} (h : Yields reading property)
    (himp : ∀ value, property value → weaker value) : Yields reading weaker := fun tokens =>
  (h tokens).imp fun value _ => himp value

end Yields

/-! ### Tokens that are looked for -/

/-- A search that takes nothing where it finds nothing. -/
def Idle (reading : Reading Bool) : Prop :=
  ∀ tokens, Gives reading tokens fun isFound rest => isFound = false → rest = tokens

theorem takeIf_gives (isWanted : Token → Bool) (tokens : List Token) :
    Gives (takeIf isWanted) tokens fun isFound rest =>
      isFound = false ∧ rest = tokens ∨
        isFound = true ∧ ∃ token, isWanted token = true ∧ tokens = token :: rest := by
  cases tokens with
  | nil => exact .inl ⟨rfl, rfl⟩
  | cons token tokens =>
    cases hwanted : isWanted token with
    | false => simp [Gives, takeIf, hwanted]
    | true => simp [Gives, takeIf, hwanted]

/-- What a rule that asks for a token goes on with depends on whether the token is there. -/
theorem Gives.ifTaken {isWanted : Token → Bool} {first second : Reading α}
    {property : α → List Token → Prop}
    (hfirst : ∀ token rest, isWanted token = true → tokens = token :: rest →
      Gives first rest property)
    (hsecond : Gives second tokens property) :
    Gives (do if ← takeIf isWanted then first else second) tokens property := by
  refine .bind (takeIf_gives isWanted tokens) fun isFound rest h => ?_
  rcases h with ⟨rfl, rfl⟩ | ⟨rfl, token, hwanted, rfl⟩
  · exact hsecond
  · exact hfirst token rest hwanted rfl

theorem idle_takeIf (isWanted : Token → Bool) : Idle (takeIf isWanted) := fun tokens =>
  (takeIf_gives isWanted tokens).imp fun _ _ h hfalse => by
    rcases h with ⟨-, rfl⟩ | ⟨rfl, -⟩
    · rfl
    · cases hfalse

theorem idle_words (expected : List String) : Idle (words expected) := by
  intro tokens
  unfold Gives words
  split
  · simp
  · simp

/-- What a rule that asks for something goes on with depends on whether it is there. -/
theorem Idle.ite {asked : Reading Bool} {first second : Reading α}
    {property : α → List Token → Prop} (hasked : Idle asked)
    (hfirst : ∀ rest, Gives first rest property) (hsecond : Gives second tokens property) :
    Gives (do if ← asked then first else second) tokens property := by
  refine .bind (hasked tokens) ?_
  rintro (_ | _) rest h
  · obtain rfl := h rfl
    exact hsecond
  · exact hfirst rest

theorem Idle.either {first second : Reading Bool} (hfirst : Idle first) (hsecond : Idle second) :
    Idle (either first second) := by
  intro tokens
  refine .bind (hfirst tokens) ?_
  rintro (_ | _) rest h
  · obtain rfl := h rfl
    exact hsecond rest
  · exact .pure nofun

theorem isNext_gives (isWanted : Token → Bool) (tokens : List Token) :
    Gives (isNext isWanted) tokens fun isFound rest =>
      isFound = tokens.head?.any isWanted ∧ rest = tokens :=
  ⟨rfl, rfl⟩

theorem isSecond_gives (isWanted : Token → Bool) (tokens : List Token) :
    Gives (isSecond isWanted) tokens fun isFound rest =>
      isFound = tokens.tail.head?.any isWanted ∧ rest = tokens :=
  ⟨rfl, rfl⟩

/-- What is insisted on is there. -/
theorem expect_gives {reading : Reading Bool} {objection : Objection}
    {property : Bool → List Token → Prop} (h : Gives reading tokens property) :
    Gives (expect objection reading) tokens fun _ rest => property true rest :=
  .bind h fun _ _ hfound => .ite (fun htrue => .pure (htrue ▸ hfound)) fun _ => .fail

theorem expectMark_gives (spelling : String) (tokens : List Token) :
    Gives (expectMark spelling) tokens fun _ rest => tokens = .mark spelling :: rest := by
  refine (expect_gives (takeIf_gives _ tokens)).imp fun _ rest h => ?_
  rcases h with ⟨h, -⟩ | ⟨-, token, hmark, rfl⟩
  · cases h
  · rw [eq_of_beq hmark]

theorem need_gives (part construct : String) (value : Option α) (tokens : List Token) :
    Gives (need part construct value) tokens fun found rest =>
      value = some found ∧ rest = tokens := by
  cases value with
  | none => exact .fail
  | some value => exact .pure ⟨rfl, rfl⟩

/-! ### Backtracking -/

/-- Nothing is taken where nothing is read and all tokens are put back. -/
theorem orBack_gives {reading : Reading (Option α)} {property : α → List Token → Prop}
    (h : Gives reading tokens fun found rest => ∀ value, found = some value → property value rest) :
    Gives (orBack reading) tokens fun found rest =>
      found = none ∧ rest = tokens ∨ ∃ value, found = some value ∧ property value rest := by
  refine .of_forall fun found rest horBack => ?_
  unfold orBack at horBack
  split at horBack
  · cases horBack
    exact .inl ⟨rfl, rfl⟩
  · next hread =>
    cases found with
    | none => exact absurd horBack (hread rest)
    | some value => exact .inr ⟨value, rfl, h.of_eq_ok horBack value rfl⟩

/-! ### Repetition -/

section

variable {step : α → Reading (Option α)} {reached : α → Prop}

/-- What every step keeps of a value and of the tokens ahead is kept by all steps together. -/
theorem iterateUpTo_keeps {invariant : α → List Token → Prop}
    (hstep : ∀ value tokens, invariant value tokens → Gives (step value) tokens fun found rest =>
      invariant (found.getD value) rest) (limit : Nat) {start : α}
    (hstart : invariant start tokens) :
    Gives (iterateUpTo step limit start) tokens invariant := by
  induction limit generalizing start tokens with
  | zero => exact .pure hstart
  | succ limit ih =>
    refine .bind (hstep start tokens hstart) fun found rest hfound => ?_
    cases found with
    | none => exact .pure hfound
    | some next => exact ih hfound

theorem iterate_keeps {invariant : α → List Token → Prop}
    (hstep : ∀ value tokens, invariant value tokens → Gives (step value) tokens fun found rest =>
      invariant (found.getD value) rest) {start : α} (hstart : invariant start tokens) :
    Gives (iterate step start) tokens invariant := by
  refine .bind (get_gives tokens) ?_
  rintro _ _ ⟨rfl, rfl⟩
  exact iterateUpTo_keeps hstep _ hstart

/-- A step takes nothing where it gives nothing, and what it gives has a property. -/
def Reaches (step : α → Reading (Option α)) (reached : α → Prop) : Prop :=
  ∀ value tokens, Gives (step value) tokens fun found rest =>
    found = none ∧ rest = tokens ∨ ∃ next, found = some next ∧ reached next

/-- A rule that gives something that a step may lead to. -/
theorem Yields.reaches {reading : Reading (Option α)}
    (h : Yields reading fun found => ∃ next, found = some next ∧ reached next)
    (start tokens : List Token) :
    Gives reading tokens fun found rest =>
      found = none ∧ rest = start ∨ ∃ next, found = some next ∧ reached next :=
  (h tokens).imp fun _ _ => .inr

/-- What goes on from a value leads to it, without taking anything, or to one with a property
    that every step brings about. -/
theorem iterate_gives (hstep : Reaches step reached) (start : α) (tokens : List Token) :
    Gives (iterate step start) tokens fun value rest =>
      value = start ∧ rest = tokens ∨ reached value := by
  refine iterate_keeps (fun value ahead hvalue => ?_) (.inl ⟨rfl, rfl⟩)
  refine (hstep value ahead).imp ?_
  rintro _ rest (⟨rfl, rfl⟩ | ⟨next, rfl, hnext⟩)
  · exact hvalue
  · exact .inr hnext

/-- Where a first step is taken, the property is brought about. -/
theorem iterate_reaches (hstep : Reaches step reached) {start : α} (htokens : tokens ≠ [])
    (hfirst : Gives (step start) tokens fun found _ => ∃ next, found = some next ∧ reached next) :
    Gives (iterate step start) tokens fun value _ => reached value := by
  obtain ⟨token, behind, rfl⟩ := List.exists_cons_of_ne_nil htokens
  refine .bind (get_gives _) ?_
  rintro _ _ ⟨rfl, rfl⟩
  refine .bind hfirst ?_
  rintro _ rest ⟨next, rfl, hnext⟩
  refine iterateUpTo_keeps (fun value ahead hvalue => ?_) _ hnext
  refine (hstep value ahead).imp ?_
  rintro _ _ (⟨rfl, -⟩ | ⟨next, rfl, hnext⟩)
  · exact hvalue
  · exact hnext

end

end DartModels.Sql.Reading
