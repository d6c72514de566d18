import Mathlib.Data.List.Forall2

namespace DartModels

variable {ε α β σ : Type}

@[simp] theorem ok_bind (value : α) (next : α → Except ε β) :
    (Except.ok value >>= next) = next value :=
  rfl

@[simp] theorem error_bind (failure : ε) (next : α → Except ε β) :
    ((Except.error failure : Except ε α) >>= next) = .error failure :=
  rfl

@[simp] theorem pure_eq_ok (value : α) : (pure value : Except ε α) = .ok value :=
  rfl

/-- A step that goes on with a result ends well only if both parts do. -/
theorem bind_eq_ok_iff {first : Except ε α} {next : α → Except ε β} {result : β} :
    (first >>= next) = .ok result ↔ ∃ value, first = .ok value ∧ next value = .ok result := by
  cases first <;> simp

theorem map_eq_ok_iff {f : α → β} {result : Except ε α} {value : β} :
    result.map f = .ok value ↔ ∃ given, result = .ok given ∧ f given = value := by
  cases result <;> simp [Except.map]

theorem map_eq_error_iff {f : α → β} {result : Except ε α} {failure : ε} :
    result.map f = .error failure ↔ result = .error failure := by
  cases result <;> simp [Except.map]

/-- A result with one property or a failure with another. -/
def Ends (good : α → Prop) (bad : ε → Prop) : Except ε α → Prop
  | .ok value => good value
  | .error failure => bad failure

@[simp] theorem ends_ok {good : α → Prop} {bad : ε → Prop} {value : α} :
    Ends good bad (.ok value) ↔ good value :=
  Iff.rfl

@[simp] theorem ends_error {good : α → Prop} {bad : ε → Prop} {failure : ε} :
    Ends good bad (.error failure) ↔ bad failure :=
  Iff.rfl

theorem Ends.of_eq_ok {good : α → Prop} {bad : ε → Prop} {result : Except ε α} {value : α}
    (h : Ends good bad result) (hvalue : result = .ok value) : good value := by
  subst hvalue
  exact h

theorem Ends.of_eq_error {good : α → Prop} {bad : ε → Prop} {result : Except ε α} {failure : ε}
    (h : Ends good bad result) (hfailure : result = .error failure) : bad failure := by
  subst hfailure
  exact h

theorem Ends.trivial (result : Except ε α) :
    Ends (fun _ => True) (fun _ => True) result := by
  cases result <;> simp

theorem Ends.imp {good better : α → Prop} {bad worse : ε → Prop} {result : Except ε α}
    (h : Ends good bad result) (hgood : ∀ value, good value → better value)
    (hbad : ∀ failure, bad failure → worse failure) : Ends better worse result := by
  cases result with
  | error failure => exact hbad failure h
  | ok value => exact hgood value h

theorem Ends.bind {good : α → Prop} {better : β → Prop} {bad : ε → Prop}
    {first : Except ε α} {next : α → Except ε β} (hfirst : Ends good bad first)
    (hnext : ∀ value, good value → Ends better bad (next value)) :
    Ends better bad (first >>= next) := by
  cases first with
  | error failure => exact hfirst
  | ok value => exact hnext value hfirst

theorem Ends.mapError {δ : Type} {good : α → Prop} {bad : ε → Prop} {worse : δ → Prop}
    {result : Except ε α} {f : ε → δ} (h : Ends good bad result)
    (hbad : ∀ failure, bad failure → worse (f failure)) : Ends good worse (result.mapError f) := by
  cases result with
  | error failure => exact hbad failure h
  | ok value => exact h

/-- A fold ends as its steps do. What a step keeps may speak of the elements that
    are done. -/
theorem Ends.foldlM {step : σ → α → Except ε σ} {bad : ε → Prop} {xs : List α}
    (keeps : List α → σ → Prop) (hstep : ∀ done x state, x ∈ xs → keeps done state →
      Ends (keeps (done ++ [x])) bad (step state x))
    {state : σ} (hstart : keeps [] state) : Ends (keeps xs) bad (xs.foldlM step state) := by
  suffices h : ∀ (rest done : List α) (state : σ), rest ⊆ xs → keeps done state →
      Ends (keeps (done ++ rest)) bad (rest.foldlM step state) by
    simpa using h xs [] state (List.Subset.refl xs) hstart
  intro rest
  induction rest with
  | nil => intro done state _ hkeeps; simpa using hkeeps
  | cons x rest ih =>
    intro done state hsub hkeeps
    obtain ⟨hx, hrest⟩ := List.cons_subset.mp hsub
    rw [List.foldlM_cons]
    refine (hstep done x state hx hkeeps).bind fun next hnext => ?_
    simpa using ih (done ++ [x]) next hrest hnext

/-- A fold does not change with a step that agrees on all elements and on all states
    that it meets. -/
theorem foldlM_congr {step other : σ → α → Except ε σ} {xs : List α} (keeps : σ → Prop)
    (hstep : ∀ state, ∀ x ∈ xs, keeps state →
      step state x = other state x ∧ Ends keeps (fun _ => True) (step state x))
    {state : σ} (hstart : keeps state) : xs.foldlM step state = xs.foldlM other state := by
  induction xs generalizing state with
  | nil => rfl
  | cons x xs ih =>
    obtain ⟨hsame, hends⟩ := hstep state x List.mem_cons_self hstart
    rw [List.foldlM_cons, List.foldlM_cons, ← hsame]
    cases hnext : step state x with
    | error failure => rfl
    | ok next =>
      exact ih (fun state x hx => hstep state x (List.mem_cons_of_mem _ hx))
        (hends.of_eq_ok hnext)

/-- A traversal ends well exactly with the results of its elements. -/
theorem mapM_eq_ok_iff {step : α → Except ε β} {xs : List α} {ys : List β} :
    xs.mapM step = .ok ys ↔ List.Forall₂ (fun x y => step x = .ok y) xs ys := by
  induction xs generalizing ys with
  | nil => simp [eq_comm]
  | cons x xs ih =>
    rw [List.mapM_cons, bind_eq_ok_iff, List.forall₂_cons_left_iff]
    constructor
    · rintro ⟨y, hy, hrest⟩
      obtain ⟨rest, hmap, heq⟩ := bind_eq_ok_iff.mp hrest
      cases heq
      exact ⟨y, rest, hy, ih.mp hmap, rfl⟩
    · rintro ⟨y, rest, hy, hmap, rfl⟩
      refine ⟨y, hy, ?_⟩
      rw [ih.mpr hmap]
      rfl

/-- A traversal that ends well has a result of each of its elements. -/
theorem exists_of_mapM_eq_ok {step : α → Except ε β} {xs : List α} {ys : List β}
    (h : xs.mapM step = .ok ys) {x : α} (hx : x ∈ xs) : ∃ y ∈ ys, step x = .ok y := by
  rw [mapM_eq_ok_iff] at h
  induction h with
  | nil => cases hx
  | cons hstep _ ih =>
    rcases List.mem_cons.mp hx with rfl | hx
    · exact ⟨_, List.mem_cons_self, hstep⟩
    · obtain ⟨y, hy, hresult⟩ := ih hx
      exact ⟨y, List.mem_cons_of_mem _ hy, hresult⟩

/-- A traversal by a step that gives one known value, if any, gives the list of these
    values, if any. -/
theorem mapM_eq_ok_map_iff {step : α → Except ε β} {good : α → Prop} {value : α → β}
    (hstep : ∀ x y, step x = .ok y ↔ good x ∧ value x = y) {xs : List α} {ys : List β} :
    xs.mapM step = .ok ys ↔ (∀ x ∈ xs, good x) ∧ xs.map value = ys := by
  rw [mapM_eq_ok_iff]
  simp only [hstep]
  rw [List.forall₂_and_left, ← List.forall₂_eq_eq_eq, List.forall₂_map_left_iff]

theorem exists_mapM_eq_ok {step : α → Except ε β} {xs : List α}
    (hstep : ∀ x ∈ xs, ∃ y, step x = .ok y) : ∃ ys, xs.mapM step = .ok ys := by
  induction xs with
  | nil => exact ⟨[], rfl⟩
  | cons x xs ih =>
    obtain ⟨y, hy⟩ := hstep x List.mem_cons_self
    obtain ⟨ys, hys⟩ := ih fun x hx => hstep x (List.mem_cons_of_mem _ hx)
    refine ⟨y :: ys, ?_⟩
    rw [List.mapM_cons, hy, hys]
    rfl

/-- A loop ends well if all of its steps do. -/
theorem forM_eq_ok {step : α → Except ε Unit} {xs : List α} (hstep : ∀ x ∈ xs, step x = .ok ()) :
    xs.forM step = .ok () := by
  induction xs with
  | nil => rfl
  | cons x xs ih =>
    change (step x >>= fun _ => xs.forM step) = .ok ()
    rw [hstep x List.mem_cons_self]
    exact ih fun x hx => hstep x (List.mem_cons_of_mem _ hx)

/-- A traversal fails as the first of its steps that fails. -/
theorem mapM_eq_error_iff {step : α → Except ε β} {xs : List α} {failure : ε} :
    xs.mapM step = .error failure ↔ ∃ done x rest, xs = done ++ x :: rest ∧
      (∀ y ∈ done, ∃ result, step y = .ok result) ∧ step x = .error failure := by
  induction xs with
  | nil => simp
  | cons x xs ih =>
    rw [List.mapM_cons]
    cases hx : step x with
    | error other =>
      rw [error_bind]
      constructor
      · rintro ⟨⟩
        exact ⟨[], x, xs, rfl, by simp, hx⟩
      · rintro ⟨done, y, rest, hxs, hdone, hy⟩
        obtain ⟨rfl, hcons⟩ | ⟨done, rfl, _⟩ := List.cons_eq_append_iff.mp hxs
        · cases hcons
          cases hx.symm.trans hy
          rfl
        · obtain ⟨result, hresult⟩ := hdone x List.mem_cons_self
          cases hx.symm.trans hresult
    | ok result =>
      have hrest : (Except.ok result >>= fun y => do return y :: (← xs.mapM step)) =
          .error failure ↔ xs.mapM step = .error failure := by
        cases xs.mapM step <;> simp
      rw [hrest, ih]
      constructor
      · rintro ⟨done, y, rest, rfl, hdone, hy⟩
        exact ⟨x :: done, y, rest, rfl, List.forall_mem_cons.mpr ⟨⟨result, hx⟩, hdone⟩, hy⟩
      · rintro ⟨done, y, rest, hxs, hdone, hy⟩
        obtain ⟨rfl, hcons⟩ | ⟨done, rfl, hrest⟩ := List.cons_eq_append_iff.mp hxs
        · cases hcons
          cases hx.symm.trans hy
        · exact ⟨done, y, rest, hrest, (List.forall_mem_cons.mp hdone).2, hy⟩

/-- Each result of a traversal is that of a step. -/
theorem Ends.mapM {step : α → Except ε β} {bad : ε → Prop} {xs : List α} (keeps : α → β → Prop)
    (hstep : ∀ x ∈ xs, Ends (keeps x) bad (step x)) :
    Ends (fun ys => ∀ y ∈ ys, ∃ x ∈ xs, keeps x y) bad (xs.mapM step) := by
  induction xs with
  | nil => simp
  | cons x xs ih =>
    rw [List.mapM_cons]
    refine (hstep x List.mem_cons_self).bind fun y hy => ?_
    refine (ih fun x hx => hstep x (List.mem_cons_of_mem _ hx)).bind fun ys hys => ?_
    intro z hz
    rcases List.mem_cons.mp hz with rfl | hz
    · exact ⟨x, List.mem_cons_self, hy⟩
    · obtain ⟨x, hx, hkeeps⟩ := hys z hz
      exact ⟨x, List.mem_cons_of_mem _ hx, hkeeps⟩

/-- A traversal ends with the results of its elements, or fails as the first of them that
    fails. -/
theorem Ends.mapM_first {step : α → Except ε β} {good : α → β → Prop} {bad : α → ε → Prop}
    {xs : List α} (hstep : ∀ x ∈ xs, Ends (good x) (bad x) (step x)) :
    Ends (List.Forall₂ good xs) (fun failure => ∃ done x rest, xs = done ++ x :: rest ∧
      (∀ y ∈ done, ∃ result, good y result) ∧ bad x failure) (xs.mapM step) := by
  cases hresult : xs.mapM step with
  | ok ys =>
    have hsteps := mapM_eq_ok_iff.mp hresult
    exact (List.forall₂_and_left _ _).mpr ⟨hstep, hsteps⟩ |>.imp fun x y h => h.1.of_eq_ok h.2
  | error failure =>
    obtain ⟨done, x, rest, rfl, hdone, hx⟩ := mapM_eq_error_iff.mp hresult
    refine ⟨done, x, rest, rfl, fun y hy => ?_, (hstep x (by simp)).of_eq_error hx⟩
    obtain ⟨result, hy'⟩ := hdone y hy
    exact ⟨result, (hstep y (by simp [hy])).of_eq_ok hy'⟩

end DartModels
