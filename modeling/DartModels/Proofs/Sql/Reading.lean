import DartModels.Proofs.Outcome
import DartModels.Sql.Reading
import Mathlib.Data.List.Basic

namespace DartModels.Sql.Reading

variable {α β : Type} {tokens rest : List Token}

@[simp] theorem bind_run (first : Reading α) (next : α → Reading β) (tokens : List Token) :
    (first >>= next) tokens = first tokens >>= fun result => next result.1 result.2 :=
  rfl

@[simp] theorem map_run (f : α → β) (first : Reading α) (tokens : List Token) :
    (f <$> first) tokens = first tokens >>= fun result => .ok (f result.1, result.2) :=
  rfl

@[simp] theorem pure_run (value : α) (tokens : List Token) :
    (pure value : Reading α) tokens = .ok (value, tokens) :=
  rfl

@[simp] theorem get_run (tokens : List Token) :
    (get : Reading (List Token)) tokens = .ok (tokens, tokens) :=
  rfl

@[simp] theorem set_run (next tokens : List Token) :
    (set next : Reading PUnit) tokens = .ok ((), next) :=
  rfl

@[simp] theorem ite_run (condition : Prop) [Decidable condition] (first second : Reading α)
    (tokens : List Token) :
    (if condition then first else second) tokens =
      if condition then first tokens else second tokens := by
  split <;> rfl

/-- A comma, a closing parenthesis or the end comes next. -/
def Closed (tokens : List Token) : Prop :=
  ∀ token ∈ tokens.head?, token = .mark ")" ∨ token = .mark ","

theorem takeIf_of_head {isWanted : Token → Bool}
    (hhead : ∀ token ∈ tokens.head?, isWanted token = false) :
    takeIf isWanted tokens = .ok (false, tokens) := by
  cases tokens with
  | nil => rfl
  | cons token tokens => simp [takeIf, hhead token rfl]

theorem isNext_of_head {isWanted : Token → Bool}
    (hhead : ∀ token ∈ tokens.head?, isWanted token = false) :
    isNext isWanted tokens = .ok (false, tokens) := by
  cases tokens with
  | nil => rfl
  | cons token tokens => simp [isNext, hhead token rfl]

theorem words_of_head {word : String} {expected : List String}
    (hhead : ∀ token ∈ tokens.head?, token.spells word = false) :
    words (word :: expected) tokens = .ok (false, tokens) := by
  cases tokens with
  | nil => simp [words]
  | cons token tokens => simp [words, hhead token rfl]

namespace Closed

theorem nil : Closed [] := by
  simp [Closed]

theorem comma (tokens : List Token) : Closed (.mark "," :: tokens) := by
  simp [Closed]

theorem parenthesis (tokens : List Token) : Closed (.mark ")" :: tokens) := by
  simp [Closed]

variable (h : Closed tokens)
include h

theorem head_eq_false {isWanted : Token → Bool} (hclosing : isWanted (.mark ")") = false)
    (hcomma : isWanted (.mark ",") = false) : ∀ token ∈ tokens.head?, isWanted token = false := by
  intro token htoken
  obtain rfl | rfl := h token htoken
  · exact hclosing
  · exact hcomma

theorem mark {spelling : String} (hclosing : spelling ≠ ")") (hcomma : spelling ≠ ",") :
    Reading.mark spelling tokens = .ok (false, tokens) :=
  takeIf_of_head (h.head_eq_false (by simp [Ne.symm hclosing]) (by simp [Ne.symm hcomma]))

@[simp] theorem keyword (capitals : String) :
    Reading.keyword capitals tokens = .ok (false, tokens) :=
  takeIf_of_head (h.head_eq_false rfl rfl)

theorem keywordAmong (capitals : List String) :
    Reading.keywordAmong capitals tokens = .ok (false, tokens) :=
  takeIf_of_head (h.head_eq_false rfl rfl)

theorem words (word : String) (expected : List String) (hclosing : word ≠ ")")
    (hcomma : word ≠ ",") :
    Reading.words (word :: expected) tokens = .ok (false, tokens) := by
  refine words_of_head (h.head_eq_false ?_ ?_)
  · have : inCapitals ")" = ")" := by decide
    simp [Token.spells, Token.capitals, Token.name, this, hclosing.symm]
  · have : inCapitals "," = "," := by decide
    simp [Token.spells, Token.capitals, Token.name, this, hcomma.symm]

end Closed

theorem iterateUpTo_stop {step : α → Reading (Option α)} {value : α}
    (hstep : step value tokens = .ok (none, tokens)) (limit : Nat) :
    iterateUpTo step limit value tokens = .ok (value, tokens) := by
  cases limit with
  | zero => rfl
  | succ limit => simp [iterateUpTo, hstep]

/-- Nothing goes on from a value if the first step finds nothing. -/
theorem iterate_stop {step : α → Reading (Option α)} {value : α}
    (hstep : step value tokens = .ok (none, tokens)) :
    iterate step value tokens = .ok (value, tokens) := by
  simp [iterate, iterateUpTo_stop hstep]

/-- What goes on from a value if the first step finds something, but not the second one. -/
theorem iterate_once {step : α → Reading (Option α)} {value next : α}
    (hfirst : step value tokens = .ok (some next, rest))
    (hsecond : step next rest = .ok (none, rest)) (hne : tokens ≠ []) :
    iterate step value tokens = .ok (next, rest) := by
  obtain ⟨token, tokens, rfl⟩ := List.exists_cons_of_ne_nil hne
  simp [iterate, iterateUpTo, hfirst, iterateUpTo_stop hsecond]

theorem orBack_none {reading : Reading (Option α)} (rest : List Token)
    (h : reading tokens = .ok (none, rest)) :
    orBack reading tokens = .ok (none, tokens) := by
  simp [orBack, h]

theorem orBack_some {reading : Reading (Option α)} {value : α}
    (h : reading tokens = .ok (some value, rest)) :
    orBack reading tokens = .ok (some value, rest) := by
  simp [orBack, h]

/-- Tokens that a rule reads as some value, whatever closes them. -/
def Reads {α : Type} (item : Reading (Option α)) (tokens : List Token) (value : α) : Prop :=
  ∀ rest : List Token, Closed rest → item (tokens ++ rest) = .ok (some value, rest)

/-- Items behind the first one, each behind a comma. -/
def behindCommas {α : Type} (items : List (List Token × α)) : List Token :=
  items.flatMap fun item => .mark "," :: item.1

theorem closed_behindCommas {α : Type} (items : List (List Token × α)) (tokens : List Token) :
    Closed (behindCommas items ++ .mark ")" :: tokens) := by
  cases items with
  | nil => exact .parenthesis tokens
  | cons item items => exact .comma _

/-- Reads a further item if a comma comes next. -/
def furtherItem {α : Type} (item : Reading (Option α)) :
    List α × Bool → Reading (Option (List α × Bool)) := fun (found, _) => do
  if ← mark "," then
    let next ← item
    return some (found ++ next.toList, next.isNone)
  else return none

theorem items_eq {α : Type} (item : Reading (Option α)) :
    items item = item >>= fun first => iterate (furtherItem item) (first.toList, false) :=
  rfl

theorem furtherItem_iterateUpTo {α : Type} {item : Reading (Option α)}
    {more : List (List Token × α)} (hmore : ∀ next ∈ more, Reads item next.1 next.2)
    {limit : Nat} (hlimit : more.length ≤ limit) (found : List α) (tokens : List Token) :
    iterateUpTo (furtherItem item) limit (found, false)
        (behindCommas more ++ .mark ")" :: tokens) =
      .ok ((found ++ more.map Prod.snd, false), .mark ")" :: tokens) := by
  induction more generalizing limit found with
  | nil =>
    have hstop : furtherItem item (found, false) (.mark ")" :: tokens) =
        .ok (none, .mark ")" :: tokens) := by
      simp [furtherItem, mark, takeIf]
    simpa [behindCommas] using iterateUpTo_stop hstop limit
  | cons next more ih =>
    obtain ⟨limit, rfl⟩ := Nat.exists_eq_add_one_of_ne_zero (Nat.ne_zero_of_lt hlimit)
    have hnext := hmore next List.mem_cons_self _ (closed_behindCommas more tokens)
    have hstep : furtherItem item (found, false)
        (.mark "," :: (next.1 ++ (behindCommas more ++ .mark ")" :: tokens))) =
        .ok (some (found ++ [next.2], false), behindCommas more ++ .mark ")" :: tokens) := by
      simp [furtherItem, mark, takeIf, hnext]
    have hrest := ih (fun item hmem => hmore item (List.mem_cons_of_mem _ hmem))
      (Nat.le_of_succ_le_succ hlimit) (found ++ [next.2])
    rw [show behindCommas (next :: more) = .mark "," :: (next.1 ++ behindCommas more) from rfl,
      List.cons_append, List.append_assoc, iterateUpTo, bind_run, hstep, ok_bind]
    simpa using hrest

theorem length_le_behindCommas {α : Type} (items : List (List Token × α)) :
    items.length ≤ (behindCommas items).length := by
  induction items with
  | nil => exact Nat.le_refl _
  | cons item items ih =>
    simp only [behindCommas, List.flatMap_cons, List.length_append, List.length_cons] at ih ⊢
    omega

/-- Items between commas are read as written. -/
theorem items_reads {α : Type} {item : Reading (Option α)} {first : List Token} {value : α}
    (hfirst : Reads item first value) {more : List (List Token × α)}
    (hmore : ∀ next ∈ more, Reads item next.1 next.2) (tokens : List Token) :
    items item (first ++ (behindCommas more ++ .mark ")" :: tokens)) =
      .ok ((value :: more.map Prod.snd, false), .mark ")" :: tokens) := by
  have hlimit : more.length ≤ (behindCommas more ++ Token.mark ")" :: tokens).length := by
    have := length_le_behindCommas more
    rw [List.length_append]
    omega
  have hfurther := furtherItem_iterateUpTo hmore hlimit [value] tokens
  rw [items_eq, bind_run, hfirst _ (closed_behindCommas more tokens), ok_bind]
  simp only [Option.toList_some, iterate, bind_run, get_run, ok_bind, hfurther,
    List.singleton_append]

theorem list_reads {α : Type} {item : Reading (Option α)} {first : List Token} {value : α}
    (hfirst : Reads item first value) {more : List (List Token × α)}
    (hmore : ∀ next ∈ more, Reads item next.1 next.2) (tokens : List Token) :
    list item (first ++ (behindCommas more ++ .mark ")" :: tokens)) =
      .ok (value :: more.map Prod.snd, .mark ")" :: tokens) := by
  rw [list, bind_run, items_reads hfirst hmore, ok_bind, pure_run]

theorem expectMark_run (spelling : String) (tokens : List Token) :
    expectMark spelling (.mark spelling :: tokens) = .ok ((), tokens) := by
  simp [expectMark, expect, mark, takeIf]

end DartModels.Sql.Reading
