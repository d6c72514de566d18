import DartModels.Proofs.Outcome
import DartModels.Sorting.Run
import Mathlib.Data.List.Perm.Basic
import Mathlib.Order.Lattice

namespace DartModels.Sorting

variable {ε α κ : Type} [LinearOrder κ]

/-- Good values can always be compared, and the one with the smaller key comes before
    the other. -/
def ComparesBy (before : α → α → Except ε Bool) (key : α → κ) (good : α → Prop) : Prop :=
  ∀ first second, good first → good second →
    before first second = .ok (decide (key first < key second))

/-- The keys of the values never fall. -/
def Ascending (key : α → κ) (values : List α) : Prop :=
  values.Pairwise fun first second => key first ≤ key second

/-- The values of each key are the same, and in the same order. -/
def Rearranged (key : α → κ) (values others : List α) : Prop :=
  ∀ k, values.filter (fun value => key value = k) = others.filter (fun value => key value = k)

namespace Rearranged

variable {key : α → κ} {values others rest more : List α}

@[refl] theorem refl (values : List α) : Rearranged key values values :=
  fun _ => rfl

theorem symm (h : Rearranged key values others) : Rearranged key others values :=
  fun k => (h k).symm

theorem trans (h : Rearranged key values others) (hnext : Rearranged key others rest) :
    Rearranged key values rest :=
  fun k => (h k).trans (hnext k)

theorem append (h : Rearranged key values others) (hrest : Rearranged key rest more) :
    Rearranged key (values ++ rest) (others ++ more) := by
  intro k
  rw [List.filter_append, List.filter_append, h k, hrest k]

theorem filter (h : Rearranged key values others) (p : α → Bool) :
    Rearranged key (values.filter p) (others.filter p) := by
  intro k
  rw [List.filter_comm, h k, List.filter_comm]

/-- Two parts that share no key can change places. -/
theorem swap (h : ∀ first ∈ values, ∀ second ∈ others, key first ≠ key second) :
    Rearranged key (values ++ others) (others ++ values) := by
  intro k
  rw [List.filter_append, List.filter_append]
  by_cases hk : ∃ first ∈ values, key first = k
  · obtain ⟨first, hfirst, rfl⟩ := hk
    have hnone : others.filter (fun value => key value = key first) = [] := by
      simpa using fun second hsecond => (h first hfirst second hsecond).symm
    simp [hnone]
  · have hnone : values.filter (fun value => key value = k) = [] := by simpa using hk
    simp [hnone]

theorem perm (h : Rearranged key values others) : values.Perm others := by
  classical
  rw [List.perm_iff_count]
  intro value
  have hcount (list : List α) :
      (list.filter (fun other => key other = key value)).count value = list.count value :=
    List.count_filter (by simp)
  rw [← hcount values, ← hcount others, h (key value)]

/-- A list whose keys fall strictly can be turned around. -/
theorem reverse_of_falling (h : values.Pairwise fun first second => key second < key first) :
    Rearranged key values.reverse values := by
  induction values with
  | nil => rfl
  | cons value values ih =>
    obtain ⟨hvalue, hrest⟩ := List.pairwise_cons.mp h
    rw [List.reverse_cons]
    have hswap : Rearranged key (values.reverse ++ [value]) ([value] ++ values.reverse) := by
      refine swap fun first hfirst second hsecond => ?_
      obtain rfl := List.mem_singleton.mp hsecond
      exact (hvalue first (List.mem_reverse.mp hfirst)).ne
    exact hswap.trans ((refl [value]).append (ih hrest))

end Rearranged

variable {before : α → α → Except ε Bool} {key : α → κ} {good : α → Prop}

/-- A run is what comes first, and goes on in one direction. -/
theorem takeRun_spec (hbefore : ComparesBy before key good) (falls : Bool) {last : α}
    {values : List α} (hlast : good last) (hgood : ∀ value ∈ values, good value) :
    ∃ run rest, takeRun before falls last values = .ok (run, rest) ∧ run ++ rest = values ∧
      (last :: run).Pairwise fun first second => decide (key second < key first) = falls := by
  induction values generalizing last with
  | nil => exact ⟨[], [], rfl, rfl, by simp⟩
  | cons value values ih =>
    obtain ⟨hvalue, hvalues⟩ := List.forall_mem_cons.mp hgood
    rw [takeRun, hbefore value last hvalue hlast, ok_bind]
    by_cases hfalls : decide (key value < key last) = falls
    · obtain ⟨run, rest, htake, happend, hrun⟩ := ih hvalue hvalues
      refine ⟨value :: run, rest, ?_, by rw [List.cons_append, happend], ?_⟩
      · rw [if_pos hfalls, htake]
        rfl
      · have htrans (next : α) (hnext : next ∈ run) : decide (key next < key last) = falls := by
          have hstep := (List.pairwise_cons.mp hrun).1 next hnext
          cases falls with
          | true =>
            rw [decide_eq_true_eq] at hfalls hstep ⊢
            exact hstep.trans hfalls
          | false =>
            rw [decide_eq_false_iff_not, not_lt] at hfalls hstep ⊢
            exact hfalls.trans hstep
        exact List.pairwise_cons.mpr ⟨List.forall_mem_cons.mpr ⟨hfalls, htrans⟩, hrun⟩
    · exact ⟨[], value :: values, by rw [if_neg hfalls]; rfl, rfl, by simp⟩

/-- The first run is sorted, and takes at least one value. -/
theorem firstRun_spec (hbefore : ComparesBy before key good) {values : List α}
    (hgood : ∀ value ∈ values, good value) :
    ∃ run rest, firstRun before values = .ok (run, rest) ∧ Ascending key run ∧
      Rearranged key (run ++ rest) values ∧ (values ≠ [] → run ≠ []) := by
  match values, hgood with
  | [], _ => exact ⟨[], [], rfl, .nil, .refl _, id⟩
  | [value], _ => exact ⟨[value], [], rfl, List.pairwise_singleton _ _, .refl _, id⟩
  | first :: second :: values, hgood =>
    obtain ⟨hfirst, hgood⟩ := List.forall_mem_cons.mp hgood
    obtain ⟨hsecond, hgood⟩ := List.forall_mem_cons.mp hgood
    obtain ⟨run, rest, htake, happend, hrun⟩ :=
      takeRun_spec hbefore (decide (key second < key first)) hsecond hgood
    have hpair : (first :: second :: run).Pairwise fun x y =>
        decide (key y < key x) = decide (key second < key first) := by
      refine List.pairwise_cons.mpr ⟨List.forall_mem_cons.mpr ⟨rfl, fun next hnext => ?_⟩, hrun⟩
      have hstep := (List.pairwise_cons.mp hrun).1 next hnext
      by_cases hfalls : key second < key first
      · simp only [hfalls, decide_true, decide_eq_true_eq] at hstep ⊢
        exact hstep.trans hfalls
      · simp only [hfalls, decide_false, decide_eq_false_iff_not, not_lt] at hstep ⊢
        exact (not_lt.mp hfalls).trans hstep
    rw [firstRun, hbefore second first hsecond hfirst, ok_bind, htake, ok_bind]
    by_cases hfalls : key second < key first
    · have hfalling : (first :: second :: run).Pairwise fun x y => key y < key x := by
        simpa [hfalls] using hpair
      refine ⟨(first :: second :: run).reverse, rest, by simp [hfalls], ?_, ?_, by simp⟩
      · exact List.pairwise_reverse.mpr (hfalling.imp le_of_lt)
      · rw [← happend]
        exact (Rearranged.reverse_of_falling hfalling).append (.refl rest)
    · refine ⟨first :: second :: run, rest, by simp [hfalls], ?_, ?_, by simp⟩
      · exact hpair.imp fun h => by simpa [hfalls] using h
      · rw [← happend]
        exact .refl _

/-- Where a value goes: behind all values with a key that is not larger, and in front
    of all others. -/
def IsPlace (key : α → κ) (sorted : List α) (value : α) (position : Nat) : Prop :=
  (∀ other ∈ sorted.take position, key other ≤ key value) ∧
    ∀ other ∈ sorted.drop position, key value < key other

theorem Ascending.head_le {values : List α} (h : Ascending key values) {first : α}
    (hfirst : values.head? = some first) {value : α} (hvalue : value ∈ values) :
    key first ≤ key value := by
  obtain ⟨rest, rfl⟩ := List.head?_eq_some_iff.mp hfirst
  rcases List.mem_cons.mp hvalue with rfl | hvalue
  · exact le_rfl
  · exact (List.pairwise_cons.mp h).1 value hvalue

theorem Ascending.le_getLast {values : List α} (h : Ascending key values) {last : α}
    (hlast : values.getLast? = some last) {value : α} (hvalue : value ∈ values) :
    key value ≤ key last := by
  obtain ⟨others, rfl⟩ := List.getLast?_eq_some_iff.mp hlast
  rcases List.mem_append.mp hvalue with hvalue | hvalue
  · exact (List.pairwise_append.mp h).2.2 value hvalue last (List.mem_singleton_self last)
  · rw [List.mem_singleton.mp hvalue]

theorem Ascending.le_of_mem_take {sorted : List α} (h : Ascending key sorted) {position : Nat}
    (hposition : position < sorted.length) {other : α}
    (hother : other ∈ sorted.take (position + 1)) : key other ≤ key sorted[position] := by
  rw [← List.take_append_getElem hposition] at hother
  rcases List.mem_append.mp hother with hother | hother
  · have hsplit := List.pairwise_append.mp ((List.take_append_drop position sorted).symm ▸ h)
    refine hsplit.2.2 other hother _ ?_
    rw [List.drop_eq_getElem_cons hposition]
    exact List.mem_cons_self
  · rw [List.mem_singleton.mp hother]

theorem Ascending.le_of_mem_drop {sorted : List α} (h : Ascending key sorted) {position : Nat}
    (hposition : position < sorted.length) {other : α} (hother : other ∈ sorted.drop position) :
    key sorted[position] ≤ key other := by
  have hdrop : Ascending key (sorted.drop position) := h.sublist (List.drop_sublist _ _)
  refine hdrop.head_le ?_ hother
  rw [List.drop_eq_getElem_cons hposition, List.head?_cons]

theorem place_spec (hbefore : ComparesBy before key good) {sorted : List α} {value : α}
    (hgood : ∀ other ∈ sorted, good other) (hvalue : good value) (hsorted : Ascending key sorted)
    (low high : Nat) (hbounds : low ≤ high) (hhigh : high ≤ sorted.length)
    (hfront : ∀ other ∈ sorted.take low, key other ≤ key value)
    (hbehind : ∀ other ∈ sorted.drop high, key value < key other) :
    ∃ position, place before sorted value low high = .ok position ∧
      IsPlace key sorted value position := by
  by_cases hlt : low < high
  · have hmiddle : (low + high) / 2 < sorted.length := by omega
    rw [place, dif_pos hlt]
    simp only [List.getElem?_eq_getElem hmiddle,
      hbefore value _ hvalue (hgood _ (List.getElem_mem hmiddle)), ok_bind, decide_eq_true_eq]
    by_cases hless : key value < key sorted[(low + high) / 2]
    · rw [if_pos hless]
      refine place_spec hbefore hgood hvalue hsorted low _ (by omega) (by omega) hfront ?_
      exact fun other hother => hless.trans_le (hsorted.le_of_mem_drop hmiddle hother)
    · rw [if_neg hless]
      refine place_spec hbefore hgood hvalue hsorted _ high (by omega) hhigh ?_ hbehind
      exact fun other hother => (hsorted.le_of_mem_take hmiddle hother).trans (not_lt.mp hless)
  · obtain rfl : low = high := by omega
    exact ⟨low, by rw [place, dif_neg hlt], hfront, hbehind⟩
termination_by high - low

theorem insert_spec (hbefore : ComparesBy before key good) {sorted : List α} {value : α}
    (hgood : ∀ other ∈ sorted, good other) (hvalue : good value)
    (hsorted : Ascending key sorted) :
    ∃ inserted, insert before sorted value = .ok inserted ∧ Ascending key inserted ∧
      Rearranged key inserted (sorted ++ [value]) := by
  obtain ⟨position, hplace, hfront, hbehind⟩ := place_spec hbefore hgood hvalue hsorted
    0 sorted.length (Nat.zero_le _) (Nat.le_refl _) (by simp) (by simp)
  refine ⟨sorted.take position ++ value :: sorted.drop position, ?_, ?_, ?_⟩
  · rw [insert, hplace]
    rfl
  · have hsplit := List.pairwise_append.mp
      ((List.take_append_drop position sorted).symm ▸ hsorted)
    refine List.pairwise_append.mpr ⟨hsplit.1, ?_, ?_⟩
    · exact List.pairwise_cons.mpr ⟨fun other hother => (hbehind other hother).le, hsplit.2.1⟩
    · exact fun first hfirst => List.forall_mem_cons.mpr
        ⟨hfront first hfirst, hsplit.2.2 first hfirst⟩
  · have hswap : Rearranged key ([value] ++ sorted.drop position)
        (sorted.drop position ++ [value]) := by
      refine .swap fun first hfirst second hsecond => ?_
      obtain rfl := List.mem_singleton.mp hfirst
      exact (hbehind second hsecond).ne
    have hmoved := (Rearranged.refl (sorted.take position)).append hswap
    rwa [← List.append_assoc (sorted.take position) (sorted.drop position),
      List.take_append_drop] at hmoved

/-- Values that are put in one after the other end up in a sorted list, behind those
    with the same key. -/
theorem foldlM_insert_spec (hbefore : ComparesBy before key good) {values : List α}
    (hgood : ∀ value ∈ values, good value) {sorted : List α}
    (hsortedGood : ∀ other ∈ sorted, good other) (hsorted : Ascending key sorted) :
    ∃ result, values.foldlM (insert before) sorted = .ok result ∧ Ascending key result ∧
      Rearranged key result (sorted ++ values) := by
  induction values generalizing sorted with
  | nil => exact ⟨sorted, rfl, hsorted, by simpa using Rearranged.refl sorted⟩
  | cons value values ih =>
    obtain ⟨hvalue, hvalues⟩ := List.forall_mem_cons.mp hgood
    obtain ⟨inserted, hinsert, hascending, hinserted⟩ :=
      insert_spec hbefore hsortedGood hvalue hsorted
    have hinsertedGood (other : α) (hother : other ∈ inserted) : good other := by
      rcases List.mem_append.mp (hinserted.perm.mem_iff.mp hother) with hmem | hmem
      · exact hsortedGood other hmem
      · exact List.mem_singleton.mp hmem ▸ hvalue
    obtain ⟨result, hfold, hresult, hrearranged⟩ := ih hvalues hinsertedGood hascending
    refine ⟨result, by rw [List.foldlM_cons, hinsert, ok_bind, hfold], hresult, ?_⟩
    simpa using hrearranged.trans (hinserted.append (.refl values))

/-- Values are split into sorted runs, given room for as many runs as there are
    values. -/
theorem runs_spec (hbefore : ComparesBy before key good) (least : Nat) {limit : Nat}
    {values : List α} (hgood : ∀ value ∈ values, good value) (hlimit : values.length ≤ limit) :
    ∃ parts, runs before least limit values = .ok parts ∧ (∀ part ∈ parts, Ascending key part) ∧
      Rearranged key parts.flatten values := by
  induction limit generalizing values with
  | zero =>
    obtain rfl : values = [] := List.length_eq_zero_iff.mp (Nat.le_zero.mp hlimit)
    exact ⟨[], rfl, by simp, .refl _⟩
  | succ limit ih =>
    by_cases hempty : values = []
    · subst hempty
      exact ⟨[], by rw [runs]; simp, by simp, .refl _⟩
    · obtain ⟨run, rest, hfirst, hascending, hrearranged, hrun⟩ := firstRun_spec hbefore hgood
      have hperm := hrearranged.perm
      have hsplitGood (value : α) (hvalue : value ∈ run ++ rest) : good value :=
        hgood value (hperm.mem_iff.mp hvalue)
      have hlength := hperm.length_eq
      have hpositive := List.length_pos_of_ne_nil (hrun hempty)
      rw [List.length_append] at hlength
      obtain ⟨part, hpart, hpartAscending, hpartRearranged⟩ := foldlM_insert_spec hbefore
        (fun value hvalue => hsplitGood value
          (List.mem_append_right _ (List.mem_of_mem_take (i := least - run.length) hvalue)))
        (fun value hvalue => hsplitGood value (List.mem_append_left _ hvalue)) hascending
      have hbehindGood (value : α) (hvalue : value ∈ rest.drop (least - run.length)) : good value :=
        hsplitGood value (List.mem_append_right _ (List.mem_of_mem_drop hvalue))
      obtain ⟨parts, hparts, hpartsAscending, hpartsRearranged⟩ := ih hbehindGood
        (by rw [List.length_drop]; omega)
      refine ⟨part :: parts, ?_, List.forall_mem_cons.mpr ⟨hpartAscending, hpartsAscending⟩, ?_⟩
      · rw [runs, hfirst, ok_bind]
        · simp only [hpart, hparts, ok_bind, pure_eq_ok]
        · exact hempty
      · rw [List.flatten_cons]
        refine (hpartRearranged.append hpartsRearranged).trans ?_
        rwa [List.append_assoc, List.take_append_drop]

end DartModels.Sorting
