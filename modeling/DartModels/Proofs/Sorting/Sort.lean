import DartModels.Proofs.Sorting.Merge
import DartModels.Sorting.Sort

namespace DartModels.Sorting

variable {ε α κ : Type} [LinearOrder κ] {before : α → α → Except ε Bool} {key : α → κ}
  {good : α → Prop}

namespace Pending

/-- What waiting runs hold, from the first run on. -/
def contents (stack : List (Pending α)) : List α :=
  stack.reverse.flatMap Pending.values

@[simp] theorem contents_cons (run : Pending α) (stack : List (Pending α)) :
    contents (run :: stack) = contents stack ++ run.values := by
  simp [contents]

/-- Waiting runs are sorted, and hold the values that are done. -/
def Waits (key : α → κ) (values : List α) (stack : List (Pending α)) : Prop :=
  (∀ run ∈ stack, Ascending key run.values) ∧ Rearranged key (contents stack) values

variable {values : List α} {first second : Pending α} {rest : List (Pending α)}

/-- Merging two runs next to each other, wherever they wait. -/
theorem merged_spec (hbefore : ComparesBy before key good) (hgood : ∀ value ∈ values, good value)
    (patience : Nat) (later : List (Pending α))
    (h : Waits key values (later ++ second :: first :: rest)) :
    ∃ run next, merged before patience first second = .ok (run, next) ∧
      Waits key values (later ++ run :: rest) := by
  obtain ⟨hascending, hrearranged⟩ := h
  have hcontents : contents (later ++ second :: first :: rest) =
      contents rest ++ (first.values ++ second.values) ++ contents later := by
    simp [contents]
  have hpairGood (value : α) (hvalue : value ∈ first.values ++ second.values) : good value := by
    refine hgood value (hrearranged.perm.mem_iff.mp ?_)
    rw [hcontents]
    exact List.mem_append_left _ (List.mem_append_right _ hvalue)
  obtain ⟨list, next, hmerge, hlist, hpart⟩ := mergeRuns_spec hbefore patience hpairGood
    (hascending first (by simp)) (hascending second (by simp))
  refine ⟨{ first with values := list }, next, ?_, fun run hrun => ?_, ?_⟩
  · rw [merged, hmerge]
    rfl
  · rcases List.mem_append.mp hrun with hrun | hrun
    · exact hascending run (List.mem_append_left _ hrun)
    · rcases List.mem_cons.mp hrun with rfl | hrun
      · exact hlist
      · exact hascending run (by simp [hrun])
  · refine Rearranged.trans ?_ (hcontents ▸ hrearranged)
    simpa [contents] using ((Rearranged.refl (contents rest)).append hpart).append
      (.refl (contents later))

theorem mergeDeeper_spec (hbefore : ComparesBy before key good)
    (hgood : ∀ value ∈ values, good value) (depth limit : Nat) {stack : List (Pending α)}
    (patience : Nat) (h : Waits key values stack) :
    ∃ next patience', mergeDeeper before depth limit (stack, patience) = .ok (next, patience') ∧
      Waits key values next ∧ next.length ≤ stack.length := by
  induction limit generalizing stack patience with
  | zero => exact ⟨stack, patience, by simp [mergeDeeper], h, Nat.le_refl _⟩
  | succ limit ih =>
    match stack, h with
    | [], h => exact ⟨[], patience, rfl, h, Nat.le_refl _⟩
    | [run], h => exact ⟨[run], patience, rfl, h, Nat.le_refl _⟩
    | second :: first :: rest, h =>
      rw [mergeDeeper]
      split
      · obtain ⟨run, patience', hmerged, hwaits⟩ :=
          merged_spec hbefore hgood patience [] h
        obtain ⟨next, patience'', hnext, hends, hlength⟩ := ih patience' hwaits
        refine ⟨next, patience'', by rw [hmerged]; exact hnext, hends, ?_⟩
        simp only [List.nil_append, List.length_cons] at hlength ⊢
        omega
      · exact ⟨_, _, rfl, h, Nat.le_refl _⟩

theorem push_spec (hbefore : ComparesBy before key good) (hgood : ∀ value ∈ values, good value)
    (count : Nat) {stack : List (Pending α)} (patience : Nat) (h : Waits key values stack)
    {added : List α} (hadded : Ascending key added) :
    ∃ next patience', push before count (stack, patience) added = .ok (next, patience') ∧
      Waits key (values ++ added) next ∧ next.length ≤ stack.length + 1 := by
  cases stack with
  | nil =>
    refine ⟨[{ start := 0, values := added, depth := 0 }], patience, rfl, ⟨?_, ?_⟩, by simp⟩
    · simpa using hadded
    · simpa [contents] using h.2.append (.refl added)
  | cons last rest =>
    have hdeeper := mergeDeeper_spec hbefore hgood
      (cutDepth count last { start := last.stop, values := added, depth := 0 })
      (last :: rest).length patience h
    obtain ⟨next, patience', hnext, ⟨hascending, hrearranged⟩, hlength⟩ := hdeeper
    have hresult : push before count (last :: rest, patience) added = .ok (
        match next with
        | last' :: others =>
          ({ start := last.stop, values := added, depth := 0 } ::
            { last' with
              depth := cutDepth count last
                { start := last.stop, values := added, depth := 0 } } ::
            others, patience')
        | [] => ([{ start := last.stop, values := added, depth := 0 }], patience')) := by
      rw [push]
      simp only [hnext, ok_bind]
      cases next <;> rfl
    rw [hresult]
    cases next with
    | nil =>
      refine ⟨_, _, rfl, ⟨by simpa using hadded, ?_⟩, by simp⟩
      simpa [contents] using hrearranged.append (.refl added)
    | cons last' others =>
      refine ⟨_, _, rfl, ⟨fun run hrun => ?_, ?_⟩, by simpa using hlength⟩
      · rcases List.mem_cons.mp hrun with rfl | hrun
        · exact hadded
        · rcases List.mem_cons.mp hrun with rfl | hrun
          · exact hascending last' List.mem_cons_self
          · exact hascending run (List.mem_cons_of_mem _ hrun)
      · simpa using hrearranged.append (.refl added)

theorem collapse_pair_spec (hbefore : ComparesBy before key good)
    (hgood : ∀ value ∈ values, good value) (limit : Nat) {stack : List (Pending α)} (patience : Nat)
    (h : Waits key values stack) (hlength : stack.length ≤ 2) :
    ∃ sorted, collapse before limit (stack, patience) = .ok sorted ∧ Ascending key sorted ∧
      Rearranged key sorted values := by
  match stack, h, hlength with
  | [], h, _ => exact ⟨[], by simp [collapse], .nil, h.2⟩
  | [run], h, _ =>
    exact ⟨run.values, by simp [collapse], h.1 run List.mem_cons_self,
      by simpa [contents] using h.2⟩
  | [second, first], h, _ =>
    obtain ⟨run, patience', hmerged, hascending, hrearranged⟩ :=
      merged_spec hbefore hgood patience [] h
    refine ⟨run.values, by simp [collapse, hmerged], hascending run List.mem_cons_self, ?_⟩
    simpa [contents] using hrearranged

/-- All runs are merged into one, given room for a step a run. -/
theorem collapse_spec (hbefore : ComparesBy before key good) (hgood : ∀ value ∈ values, good value)
    {limit : Nat} {stack : List (Pending α)} (patience : Nat) (h : Waits key values stack)
    (hlimit : stack.length ≤ limit + 2) :
    ∃ sorted, collapse before limit (stack, patience) = .ok sorted ∧ Ascending key sorted ∧
      Rearranged key sorted values := by
  induction limit generalizing stack patience with
  | zero => exact collapse_pair_spec hbefore hgood 0 patience h hlimit
  | succ limit ih =>
    match stack, h, hlimit with
    | third :: second :: first :: rest, h, hlimit =>
      rw [collapse]
      split
      · obtain ⟨run, patience', hmerged, hwaits⟩ :=
          merged_spec hbefore hgood patience [third] h
        rw [hmerged, ok_bind]
        exact ih patience' hwaits (by simpa using hlimit)
      · obtain ⟨run, patience', hmerged, hwaits⟩ :=
          merged_spec hbefore hgood patience [] h
        rw [hmerged, ok_bind]
        exact ih patience' hwaits (by simpa using hlimit)
    | [], h, _ => exact collapse_pair_spec hbefore hgood (limit + 1) patience h (by simp)
    | [_], h, _ => exact collapse_pair_spec hbefore hgood (limit + 1) patience h (by simp)
    | [_, _], h, _ => exact collapse_pair_spec hbefore hgood (limit + 1) patience h (by simp)

/-- Runs that are added one after the other wait in their order. -/
theorem foldlM_push_spec (hbefore : ComparesBy before key good) (count : Nat)
    {parts : List (List α)} (hparts : ∀ part ∈ parts, Ascending key part) {stack : List (Pending α)}
    (patience : Nat) (hgood : ∀ value ∈ values ++ parts.flatten, good value)
    (h : Waits key values stack) :
    ∃ next patience', parts.foldlM (push before count) (stack, patience) = .ok (next, patience') ∧
      Waits key (values ++ parts.flatten) next ∧ next.length ≤ stack.length + parts.length := by
  induction parts generalizing values stack patience with
  | nil => exact ⟨stack, patience, rfl, by simpa using h, Nat.le_refl _⟩
  | cons part parts ih =>
    obtain ⟨hpart, hparts⟩ := List.forall_mem_cons.mp hparts
    have hsplit : values ++ (part :: parts).flatten = (values ++ part) ++ parts.flatten := by simp
    rw [hsplit] at hgood ⊢
    obtain ⟨next, patience', hpush, hwaits, hlength⟩ := push_spec hbefore
      (fun value hvalue => hgood value (by simp [hvalue])) count patience h hpart
    obtain ⟨last, patience'', hfold, hends, hlength'⟩ := ih hparts patience' hgood hwaits
    refine ⟨last, patience'', by rw [List.foldlM_cons, hpush]; exact hfold, hends, ?_⟩
    rw [List.length_cons]
    omega

end Pending

/-- Sorting good values always ends, with a sorted list in which values of one key are
    as before. -/
theorem sort_spec (hbefore : ComparesBy before key good) {values : List α}
    (hgood : ∀ value ∈ values, good value) :
    ∃ sorted, sort before values = .ok sorted ∧ Ascending key sorted ∧
      Rearranged key sorted values := by
  obtain ⟨parts, hparts, hascending, hrearranged⟩ :=
    runs_spec hbefore (leastRun values.length) hgood (Nat.le_refl _)
  have hpartsGood (value : α) (hvalue : value ∈ parts.flatten) : good value :=
    hgood value (hrearranged.perm.mem_iff.mp hvalue)
  have hempty : Pending.Waits key [] ([] : List (Pending α)) := ⟨by simp, .refl _⟩
  obtain ⟨stack, patience, hfold, hwaits, hlength⟩ := Pending.foldlM_push_spec hbefore values.length
    hascending worthwhile (by simpa using hpartsGood) hempty
  have hroom : stack.length ≤ parts.length + 2 := by
    rw [List.length_nil] at hlength
    omega
  obtain ⟨sorted, hcollapse, hsorted, hsortedRearranged⟩ := Pending.collapse_spec hbefore
    (by simpa using hpartsGood) patience hwaits hroom
  refine ⟨sorted, ?_, hsorted, hsortedRearranged.trans (by simpa using hrearranged)⟩
  rw [sort, hparts, ok_bind, hfold, ok_bind, hcollapse]

end DartModels.Sorting
