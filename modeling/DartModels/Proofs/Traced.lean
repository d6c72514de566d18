import DartModels.Proofs.Outcome
import DartModels.Traced

namespace DartModels.Traced

variable {ω ε α β : Type}

/-- What comes after a failure adds nothing, so it does not matter how steps are
    grouped. -/
instance : LawfulMonad (Traced ω ε) :=
  LawfulMonad.mk' _
    (by
      rintro α ⟨notes, outcome⟩
      cases outcome with
      | error failure => rfl
      | ok value => exact congrArg (Traced.mk · _) (List.append_nil notes))
    (fun _ _ => rfl)
    (by
      rintro α β γ ⟨notes, outcome⟩ next last
      cases outcome with
      | error failure => rfl
      | ok value =>
        change andThen (andThen ⟨notes, .ok value⟩ next) last =
          andThen ⟨notes, .ok value⟩ fun value => andThen (next value) last
        simp only [andThen]
        cases (next value).outcome <;> simp)

@[simp] theorem trace_pure (value : α) : (pure value : Traced ω ε α).trace = [] :=
  rfl

@[simp] theorem outcome_pure (value : α) : (pure value : Traced ω ε α).outcome = .ok value :=
  rfl

/-- The outcome of two steps does not depend on their notes. -/
@[simp] theorem outcome_bind (first : Traced ω ε α) (next : α → Traced ω ε β) :
    (first >>= next).outcome = first.outcome >>= fun value => (next value).outcome := by
  change (andThen first next).outcome = _
  unfold andThen
  cases first.outcome <;> rfl

@[simp] theorem lift_ok_bind (value : α) (next : α → Traced ω ε β) :
    (lift (.ok value) >>= next) = next value :=
  rfl

/-- A step after a good one adds its notes to those that are there. -/
theorem mk_ok_bind (notes : List ω) (value : α) (next : α → Traced ω ε β) :
    (⟨notes, .ok value⟩ >>= next) = ⟨notes ++ (next value).trace, (next value).outcome⟩ :=
  rfl

theorem mk_ok_bind_pure (notes : List ω) (value : α) (next : α → β) :
    (⟨notes, .ok value⟩ >>= fun value => pure (next value) : Traced ω ε β) =
      ⟨notes, .ok (next value)⟩ := by
  rw [mk_ok_bind]
  exact congrArg (Traced.mk · _) (List.append_nil _)

theorem trace_bind_of_ok {first : Traced ω ε α} {value : α} (h : first.outcome = .ok value)
    (next : α → Traced ω ε β) : (first >>= next).trace = first.trace ++ (next value).trace := by
  obtain ⟨notes, outcome⟩ := first
  cases h
  rfl

theorem outcome_mapM (step : α → Traced ω ε β) (xs : List α) :
    (xs.mapM step).outcome = xs.mapM fun x => (step x).outcome := by
  induction xs with
  | nil => rfl
  | cons x xs ih =>
    rw [List.mapM_cons, List.mapM_cons, outcome_bind, ← ih]
    refine congrArg ((step x).outcome >>= ·) (funext fun y => ?_)
    rw [outcome_bind]
    rfl

theorem mapM_congr {step other : α → Traced ω ε β} {xs : List α}
    (hstep : ∀ x ∈ xs, step x = other x) : xs.mapM step = xs.mapM other := by
  induction xs with
  | nil => rfl
  | cons x xs ih =>
    rw [List.mapM_cons, List.mapM_cons, hstep x List.mem_cons_self,
      ih fun x hx => hstep x (List.mem_cons_of_mem _ hx)]

/-- A traversal of good steps makes all of their notes, in order. -/
theorem mapM_eq_of_ok {step : α → Traced ω ε β} {notes : α → List ω} {value : α → β}
    {xs : List α} (hstep : ∀ x ∈ xs, step x = ⟨notes x, .ok (value x)⟩) :
    xs.mapM step = ⟨xs.flatMap notes, .ok (xs.map value)⟩ := by
  induction xs with
  | nil => rfl
  | cons x xs ih =>
    have hrest := ih fun x hx => hstep x (List.mem_cons_of_mem _ hx)
    rw [List.mapM_cons, hstep x List.mem_cons_self, hrest, mk_ok_bind, mk_ok_bind]
    simp

/-- A traversal that ends well makes the notes of all of its steps. -/
theorem trace_mapM_of_ok {step : α → Traced ω ε β} {xs : List α} {ys : List β}
    (h : (xs.mapM step).outcome = .ok ys) :
    (xs.mapM step).trace = xs.flatMap fun x => (step x).trace := by
  induction xs generalizing ys with
  | nil => rfl
  | cons x xs ih =>
    rw [List.mapM_cons] at h ⊢
    rw [outcome_bind, bind_eq_ok_iff] at h
    obtain ⟨y, hy, h⟩ := h
    rw [outcome_bind, bind_eq_ok_iff] at h
    obtain ⟨rest, hrest, _⟩ := h
    rw [trace_bind_of_ok hy, trace_bind_of_ok hrest, ih hrest]
    simp

/-- Every note that is made has one property, and the result, if there is one, has
    another. -/
def Keeps (noted : ω → Prop) (good : α → Prop) (traced : Traced ω ε α) : Prop :=
  (∀ note ∈ traced.trace, noted note) ∧ Ends good (fun _ => True) traced.outcome

section

variable {noted : ω → Prop} {good : α → Prop} {better : β → Prop}

theorem Keeps.pure {value : α} (hvalue : good value) :
    Keeps noted good (pure value : Traced ω ε α) := by
  simpa [Keeps] using hvalue

theorem Keeps.tell {note : ω} (hnote : noted note) :
    Keeps noted (fun _ => True) (tell note : Traced ω ε Unit) := by
  simpa [Keeps, Traced.tell] using hnote

theorem Keeps.lift {outcome : Except ε α} (houtcome : Ends good (fun _ => True) outcome) :
    Keeps noted good (lift outcome : Traced ω ε α) := by
  simpa [Keeps, Traced.lift] using houtcome

theorem Keeps.bind {first : Traced ω ε α} {next : α → Traced ω ε β}
    (hfirst : Keeps noted good first)
    (hnext : ∀ value, good value → Keeps noted better (next value)) :
    Keeps noted better (first >>= next) := by
  obtain ⟨notes, outcome⟩ := first
  obtain ⟨hnotes, houtcome⟩ := hfirst
  cases outcome with
  | error failure => exact ⟨hnotes, trivial⟩
  | ok value =>
    obtain ⟨hlater, hresult⟩ := hnext value houtcome
    refine ⟨fun note hnote => ?_, hresult⟩
    rcases List.mem_append.mp hnote with hnote | hnote
    · exact hnotes note hnote
    · exact hlater note hnote

theorem Keeps.mapM {step : α → Traced ω ε β} {xs : List α}
    (hstep : ∀ x ∈ xs, Keeps noted better (step x)) :
    Keeps noted (fun ys => ∀ y ∈ ys, better y) (xs.mapM step) := by
  induction xs with
  | nil => exact .pure (by simp)
  | cons x xs ih =>
    rw [List.mapM_cons]
    refine (hstep x List.mem_cons_self).bind fun y hy => ?_
    refine (ih fun x hx => hstep x (List.mem_cons_of_mem _ hx)).bind fun ys hys => ?_
    refine .pure fun z hz => ?_
    rcases List.mem_cons.mp hz with rfl | hz
    · exact hy
    · exact hys z hz

end

end DartModels.Traced
