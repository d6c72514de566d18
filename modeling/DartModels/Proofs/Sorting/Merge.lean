import DartModels.Proofs.Sorting.Run
import DartModels.Sorting.Merge
import Mathlib.Data.List.TakeWhile
import Mathlib.Order.OrderDual

namespace DartModels.Sorting

variable {ε α κ : Type} [LinearOrder κ]

theorem narrow_eq {counts : Nat → Except ε Bool} {count : Nat} (direction : Direction)
    (low high : Nat) (hlow : low ≤ count) (hhigh : count ≤ high)
    (hcounts : ∀ position, position < high → counts position = .ok (decide (position < count))) :
    narrow direction counts low high = .ok count := by
  by_cases hlt : low < high
  · obtain ⟨hmiddle, hmiddle'⟩ := direction.middle_bounds hlt
    rw [narrow, dif_pos hlt, hcounts _ hmiddle', ok_bind]
    by_cases hcount : direction.middle low high < count
    · simp only [hcount, decide_true, if_true]
      exact narrow_eq direction _ high (by omega) hhigh hcounts
    · simp only [hcount, decide_false, Bool.false_eq_true, if_false]
      exact narrow_eq direction low _ hlow (by omega) fun position hposition =>
        hcounts position (by omega)
  · rw [narrow, dif_neg hlt]
    congr 1
    omega
termination_by high - low

theorem stretch_eq {counts : Nat → Except ε Bool} {count size : Nat} (direction : Direction)
    (hsize : count ≤ size)
    (hcounts : ∀ position, position < size → counts position = .ok (decide (position < count)))
    {limit last step : Nat} (hlast : last < count) (hstep : last < step)
    (hlimit : size ≤ limit + last) :
    stretch direction counts size limit last step = .ok count := by
  induction limit generalizing last step with
  | zero => omega
  | succ limit ih =>
    rw [stretch]
    by_cases hend : size ≤ step
    · rw [if_pos hend]
      exact narrow_eq direction _ _ hlast hsize hcounts
    · rw [if_neg hend, hcounts step (by omega), ok_bind]
      by_cases hcount : step < count
      · simp only [hcount, decide_true, if_true]
        exact ih hcount (by omega) (by omega)
      · simp only [hcount, decide_false, Bool.false_eq_true, if_false]
        exact narrow_eq direction _ _ hlast (by omega) fun position hposition =>
          hcounts position (by omega)

theorem does_getElem_eq {does : α → Bool} {values : List α}
    (hleading : values.Pairwise fun first second => does second → does first)
    {position : Nat} (hposition : position < values.length) :
    does values[position] = decide (position < (values.takeWhile does).length) := by
  induction values generalizing position with
  | nil => simp at hposition
  | cons value values ih =>
    obtain ⟨hvalue, hrest⟩ := List.pairwise_cons.mp hleading
    by_cases hdoes : does value = true
    · cases position with
      | zero => simp [hdoes]
      | succ position => simpa [hdoes] using ih hrest (by simpa using hposition)
    · cases position with
      | zero => simp [hdoes]
      | succ position =>
        have hnot (other : α) (hother : other ∈ values) : does other = false :=
          Bool.eq_false_iff.mpr fun h => hdoes (hvalue other hother h)
        simp [hdoes, hnot]

theorem does_of_mem_take {does : α → Bool} {values : List α} {value : α}
    (hvalue : value ∈ values.take (values.takeWhile does).length) : does value = true := by
  rw [← List.prefix_iff_eq_take.mp (List.takeWhile_prefix does)] at hvalue
  exact List.mem_takeWhile_imp hvalue

theorem not_does_of_mem_drop {does : α → Bool} {values : List α}
    (hleading : values.Pairwise fun first second => does second → does first) {value : α}
    (hvalue : value ∈ values.drop (values.takeWhile does).length) : does value = false := by
  obtain ⟨position, hposition, rfl⟩ := List.mem_drop_iff_getElem.mp hvalue
  rw [does_getElem_eq hleading]
  simp

/-- If no value that counts is behind one that does not, the search finds the end of
    those that do. -/
theorem countLeading_eq {counts : α → Except ε Bool} {does : α → Bool} {values : List α}
    (direction : Direction) (hcounts : ∀ value ∈ values, counts value = .ok (does value))
    (hleading : values.Pairwise fun first second => does second → does first) :
    countLeading direction counts values = .ok (values.takeWhile does).length := by
  unfold countLeading
  extract_lets countsAt
  have hcountsAt (position : Nat) :
      countsAt position = values[position]?.elim (.ok false) counts := by
    unfold countsAt
    cases values[position]? <;> rfl
  have hdoes (position : Nat) (h : position < values.length) :
      countsAt position = .ok (decide (position < (values.takeWhile does).length)) := by
    rw [hcountsAt, List.getElem?_eq_getElem h, ← does_getElem_eq hleading h]
    exact hcounts _ (List.getElem_mem h)
  by_cases hempty : values = []
  · subst hempty
    rfl
  · rw [hdoes 0 (List.length_pos_of_ne_nil hempty), ok_bind]
    by_cases hpositive : 0 < (values.takeWhile does).length
    · simp only [hpositive, decide_true, if_true]
      exact stretch_eq direction (List.takeWhile_prefix does).length_le hdoes hpositive
        Nat.one_pos (Nat.le_refl _)
    · simp only [hpositive, decide_false, Bool.false_eq_true, if_false, pure_eq_ok]
      congr 1
      omega

section Search

variable {key : α → κ} {before : α → α → Except ε Bool} {good : α → Prop} {values : List α}
  {other : α}

/-- The search for the values that do not come behind another. -/
theorem countLeading_notAfter (direction : Direction) (hbefore : ComparesBy before key good)
    (hother : good other) (hgood : ∀ value ∈ values, good value) (hsorted : Ascending key values) :
    ∃ count, countLeading direction (fun value => do return !(← before other value)) values =
        .ok count ∧
      (∀ value ∈ values.take count, key value ≤ key other) ∧
      ∀ value ∈ values.drop count, key other < key value := by
  have hleading : values.Pairwise fun first second =>
      decide (key second ≤ key other) = true → decide (key first ≤ key other) = true :=
    hsorted.imp fun hle => by simpa using hle.trans
  refine ⟨_, countLeading_eq direction (fun value hvalue => ?_) hleading,
    fun value hvalue => by simpa using does_of_mem_take hvalue,
    fun value hvalue => by simpa using not_does_of_mem_drop hleading hvalue⟩
  rw [hbefore other value hother (hgood value hvalue)]
  simp [← decide_not]

/-- The search for the values that come before another. -/
theorem countLeading_before (direction : Direction) (hbefore : ComparesBy before key good)
    (hother : good other) (hgood : ∀ value ∈ values, good value) (hsorted : Ascending key values) :
    ∃ count, countLeading direction (fun value => before value other) values = .ok count ∧
      (∀ value ∈ values.take count, key value < key other) ∧
      ∀ value ∈ values.drop count, key other ≤ key value := by
  have hleading : values.Pairwise fun first second =>
      decide (key second < key other) = true → decide (key first < key other) = true :=
    hsorted.imp fun hle => by simpa using hle.trans_lt
  exact ⟨_, countLeading_eq direction
      (fun value hvalue => hbefore value other (hgood value hvalue) hother) hleading,
    fun value hvalue => by simpa using does_of_mem_take hvalue,
    fun value hvalue => by simpa using not_does_of_mem_drop hleading hvalue⟩

end Search

variable {key : α → κ}

namespace Merging

/-- What holds while two runs of some values are merged: what is merged is sorted and
    goes before what is left of both runs. The last value of the shorter run goes
    behind the longer run, so that it can wait for the end. -/
structure Sound (key : α → κ) (values : List α) (merging : Merging α) : Prop where
  rearranged : Rearranged key (merging.merged.reverse ++ merging.short ++ merging.long) values
  short : Ascending key (merging.merged.reverse ++ merging.short)
  long : Ascending key (merging.merged.reverse ++ merging.long)
  last : ∀ last, merging.short.getLast? = some last → ∀ value ∈ merging.long, key value < key last

/-- How many values are left of both runs. -/
def left (merging : Merging α) : Nat :=
  merging.short.length + merging.long.length

variable {values : List α} {merging : Merging α}

/-- While there are comparisons to make, there is a value in front of each run. -/
theorem exists_heads (hover : ¬ merging.isOver = true) :
    ∃ ours short theirs long, merging.short = ours :: short ∧ merging.long = theirs :: long := by
  obtain ⟨ours, short, hshort⟩ : ∃ ours short, merging.short = ours :: short := by
    refine List.exists_cons_of_ne_nil fun hempty => hover ?_
    simp [isOver, hempty]
  obtain ⟨theirs, long, hlong⟩ : ∃ theirs long, merging.long = theirs :: long := by
    refine List.exists_cons_of_ne_nil fun hempty => hover ?_
    simp [isOver, hempty]
  exact ⟨ours, short, theirs, long, hshort, hlong⟩

theorem Sound.patience (h : Sound key values merging) (patience : Nat) :
    Sound key values { merging with patience } :=
  ⟨h.rearranged, h.short, h.long, h.last⟩

theorem Sound.mem_of_short (h : Sound key values merging) {value : α}
    (hvalue : value ∈ merging.short) : value ∈ values :=
  h.rearranged.perm.mem_iff.mp (by simp [hvalue])

theorem Sound.mem_of_long (h : Sound key values merging) {value : α}
    (hvalue : value ∈ merging.long) : value ∈ values :=
  h.rearranged.perm.mem_iff.mp (by simp [hvalue])

theorem Sound.ascending_short (h : Sound key values merging) : Ascending key merging.short :=
  (List.pairwise_append.mp h.short).2.1

theorem Sound.ascending_long (h : Sound key values merging) : Ascending key merging.long :=
  (List.pairwise_append.mp h.long).2.1

theorem Sound.takeShort (h : Sound key values merging) (count : Nat)
    (hfront : ∀ value ∈ merging.short.take count, ∀ other ∈ merging.long, key value ≤ key other) :
    Sound key values (merging.takeShort count) := by
  have hmerged : (merging.takeShort count).merged.reverse =
      merging.merged.reverse ++ merging.short.take count := by
    simp [Merging.takeShort]
  have hshort : (merging.takeShort count).merged.reverse ++ (merging.takeShort count).short =
      merging.merged.reverse ++ merging.short := by
    rw [hmerged, List.append_assoc]
    exact congrArg _ (List.take_append_drop count merging.short)
  obtain ⟨hmergedAscending, hlong, hcross⟩ := List.pairwise_append.mp h.long
  refine ⟨?_, hshort ▸ h.short, ?_, fun last hlast => h.last last ?_⟩
  · rw [hshort]
    exact h.rearranged
  · refine List.pairwise_append.mpr ⟨?_, hlong, fun value hvalue other hother => ?_⟩
    · rw [hmerged]
      exact h.short.sublist ((List.take_sublist _ _).append_left _)
    · rcases List.mem_append.mp (hmerged ▸ hvalue) with hvalue | hvalue
      · exact hcross value hvalue other hother
      · exact hfront value hvalue other hother
  · simp only [Merging.takeShort, List.getLast?_drop] at hlast
    split at hlast
    · cases hlast
    · exact hlast

theorem Sound.takeLong (h : Sound key values merging) (count : Nat)
    (hfront : ∀ value ∈ merging.long.take count, ∀ other ∈ merging.short, key value < key other) :
    Sound key values (merging.takeLong count) := by
  have hmerged : (merging.takeLong count).merged.reverse =
      merging.merged.reverse ++ merging.long.take count := by
    simp [Merging.takeLong]
  have hlong : (merging.takeLong count).merged.reverse ++ (merging.takeLong count).long =
      merging.merged.reverse ++ merging.long := by
    rw [hmerged, List.append_assoc]
    exact congrArg _ (List.take_append_drop count merging.long)
  obtain ⟨hmergedAscending, hshort, hcross⟩ := List.pairwise_append.mp h.short
  refine ⟨?_, ?_, hlong ▸ h.long, fun last hlast value hvalue => ?_⟩
  · have hswap : Rearranged key (merging.long.take count ++ merging.short)
        (merging.short ++ merging.long.take count) :=
      .swap fun value hvalue other hother => (hfront value hvalue other hother).ne
    have hmoved := ((Rearranged.refl merging.merged.reverse).append hswap).append
      (.refl (merging.long.drop count))
    refine Rearranged.trans ?_ h.rearranged
    simpa [Merging.takeLong] using hmoved
  · refine List.pairwise_append.mpr ⟨?_, hshort, fun value hvalue other hother => ?_⟩
    · rw [hmerged]
      exact h.long.sublist ((List.take_sublist _ _).append_left _)
    · rcases List.mem_append.mp (hmerged ▸ hvalue) with hvalue | hvalue
      · exact hcross value hvalue other hother
      · exact (hfront value hvalue other hother).le
  · exact h.last last hlast value (List.mem_of_mem_drop hvalue)

/-- The lower one of the values in front is taken, and that of the shorter run if they are
    equal. -/
theorem Sound.takeLower (h : Sound key values merging) {ours theirs : α} {short long : List α}
    (hshort : merging.short = ours :: short) (hlong : merging.long = theirs :: long) :
    Sound key values
        (if key theirs < key ours then merging.takeLong 1 else merging.takeShort 1) ∧
      (if key theirs < key ours then merging.takeLong 1 else merging.takeShort 1).left <
        merging.left := by
  have hours : merging.short.head? = some ours := by rw [hshort]; rfl
  have htheirs : merging.long.head? = some theirs := by rw [hlong]; rfl
  by_cases hless : key theirs < key ours
  · rw [if_pos hless]
    refine ⟨h.takeLong 1 fun value hvalue other hother => ?_, by
      simp [left, Merging.takeLong, hlong]⟩
    obtain rfl : value = theirs := by simpa [hlong] using hvalue
    exact hless.trans_le (h.ascending_short.head_le hours hother)
  · rw [if_neg hless]
    refine ⟨h.takeShort 1 fun value hvalue other hother => ?_, by
      simp [left, Merging.takeShort, hshort]⟩
    obtain rfl : value = ours := by simpa [hshort] using hvalue
    exact (not_lt.mp hless).trans (h.ascending_long.head_le htheirs hother)

/-- Once the comparisons are made, what is left can be put behind what is merged. -/
theorem Sound.result (h : Sound key values merging) (hover : merging.isOver = true) :
    Ascending key merging.result ∧ Rearranged key merging.result values := by
  have hcases : merging.long = [] ∨ merging.short = [] ∨ ∃ last, merging.short = [last] := by
    rw [isOver, Bool.or_eq_true, List.isEmpty_iff, decide_eq_true_eq] at hover
    rcases hover with hlong | hshort
    · exact .inl hlong
    · cases hcase : merging.short with
      | nil => exact .inr (.inl rfl)
      | cons last rest =>
        rw [hcase, List.length_cons] at hshort
        obtain rfl := List.length_eq_zero_iff.mp (by omega : rest.length = 0)
        exact .inr (.inr ⟨last, rfl⟩)
  have hbehind (first : α) (hfirst : first ∈ merging.long) (second : α)
      (hsecond : second ∈ merging.short) : key first < key second := by
    rcases hcases with hlong | hshort | ⟨last, hshort⟩
    · simp [hlong] at hfirst
    · simp [hshort] at hsecond
    · rw [hshort] at hsecond
      obtain rfl := List.mem_singleton.mp hsecond
      exact h.last second (by rw [hshort]; rfl) first hfirst
  constructor
  · refine List.pairwise_append.mpr
      ⟨h.long, h.ascending_short, fun first hfirst second hsecond => ?_⟩
    rcases List.mem_append.mp hfirst with hfirst | hfirst
    · exact (List.pairwise_append.mp h.short).2.2 first hfirst second hsecond
    · exact (hbehind first hfirst second hsecond).le
  · have hswap : Rearranged key (merging.long ++ merging.short) (merging.short ++ merging.long) :=
      .swap fun first hfirst second hsecond => (hbehind first hfirst second hsecond).ne
    refine Rearranged.trans ?_ h.rearranged
    simpa [Merging.result] using (Rearranged.refl merging.merged.reverse).append hswap

/-- A step gives a sound merge, in which fewer values are left unless it is over. -/
def Advances (key : α → κ) (values : List α)
    (step : Merging α → Except ε (Merging α × Nat)) : Prop :=
  ∀ merging, Sound key values merging → ∃ next count, step merging = .ok (next, count) ∧
    Sound key values next ∧ (next.isOver = true ∨ next.left < merging.left)

variable {wins : α → α → Except ε Bool} {good : α → Prop} (direction : Direction)

theorem stretchOfShort_advances (hwins : ComparesBy wins key good)
    (hgood : ∀ value ∈ values, good value) :
    Advances key values (stretchOfShort direction wins) := by
  intro merging h
  cases hlong : merging.long with
  | nil => exact ⟨merging, 0, by simp [stretchOfShort, hlong], h, .inl (by simp [isOver, hlong])⟩
  | cons first rest =>
    have hfirst : first ∈ merging.long := by simp [hlong]
    obtain ⟨count, hcount, hfront, hbehind⟩ := countLeading_notAfter direction hwins
      (hgood first (h.mem_of_long hfirst)) (fun value hvalue => hgood value (h.mem_of_short hvalue))
      h.ascending_short
    have htaken : Sound key values (merging.takeShort count) :=
      h.takeShort count fun value hvalue other hother =>
        (hfront value hvalue).trans (h.ascending_long.head_le (by rw [hlong]; rfl) hother)
    refine ⟨_, _, by simp only [stretchOfShort, hlong, hcount, ok_bind]; rfl, ?_⟩
    split
    · exact ⟨htaken, .inl ‹_›⟩
    · refine ⟨htaken.takeLong 1 fun value hvalue other hother => ?_, .inr ?_⟩
      · obtain rfl : value = first := by simpa [Merging.takeShort, hlong] using hvalue
        exact hbehind other hother
      · simp only [left, Merging.takeLong, Merging.takeShort, hlong, List.length_drop,
          List.length_cons]
        omega

theorem stretchOfLong_advances (hwins : ComparesBy wins key good)
    (hgood : ∀ value ∈ values, good value) :
    Advances key values (stretchOfLong direction wins) := by
  intro merging h
  cases hshort : merging.short with
  | nil => exact ⟨merging, 0, by simp [stretchOfLong, hshort], h, .inl (by simp [isOver, hshort])⟩
  | cons first rest =>
    have hfirst : first ∈ merging.short := by simp [hshort]
    obtain ⟨count, hcount, hfront, hbehind⟩ := countLeading_before direction hwins
      (hgood first (h.mem_of_short hfirst)) (fun value hvalue => hgood value (h.mem_of_long hvalue))
      h.ascending_long
    have htaken : Sound key values (merging.takeLong count) :=
      h.takeLong count fun value hvalue other hother =>
        (hfront value hvalue).trans_le (h.ascending_short.head_le (by rw [hshort]; rfl) hother)
    refine ⟨_, _, by simp only [stretchOfLong, hshort, hcount, ok_bind]; rfl, ?_⟩
    split
    · exact ⟨htaken, .inl ‹_›⟩
    · refine ⟨htaken.takeShort 1 fun value hvalue other hother => ?_, .inr ?_⟩
      · obtain rfl : value = first := by simpa [Merging.takeLong, hshort] using hvalue
        exact hbehind other hother
      · simp only [left, Merging.takeLong, Merging.takeShort, hshort, List.length_drop,
          List.length_cons]
        omega

/-- Two steps in a row, of which the second one is left out if the first one ends the merge. -/
theorem Advances.both {first second : Merging α → Except ε (Merging α × Nat)}
    (hfirst : Advances key values first) (hsecond : Advances key values second) :
    Advances key values fun merging => do
      let (merging, count) ← first merging
      if merging.isOver then return (merging, count)
      let (merging, other) ← second merging
      return (merging, max count other) := by
  intro merging h
  obtain ⟨middle, count, hmiddle, hsound, hless⟩ := hfirst merging h
  obtain ⟨last, other, hlast, hsound', hless'⟩ := hsecond middle hsound
  simp only [hmiddle, ok_bind]
  by_cases hover : middle.isOver = true
  · exact ⟨middle, count, by simp [hover], hsound, .inl hover⟩
  · refine ⟨last, max count other, by simp [hover, hlast], hsound', ?_⟩
    exact hless'.imp_right fun h => Nat.lt_trans h (hless.resolve_left hover)

theorem stretches_advances (hwins : ComparesBy wins key good)
    (hgood : ∀ value ∈ values, good value) : Advances key values (stretches direction wins) := by
  intro merging h
  have hpatient := h.patience (max 1 (merging.patience - 1))
  cases direction with
  | fromStart =>
    exact (stretchOfShort_advances .fromStart hwins hgood).both
      (stretchOfLong_advances .fromStart hwins hgood) _ hpatient
  | fromEnd =>
    exact (stretchOfLong_advances .fromEnd hwins hgood).both
      (stretchOfShort_advances .fromEnd hwins hgood) _ hpatient

end Merging

variable {wins : α → α → Except ε Bool} {good : α → Prop} {values : List α}

/-- However values are taken, a merge with room for a step a value makes all its
    comparisons. -/
theorem merge_spec (direction : Direction) (hwins : ComparesBy wins key good)
    (hgood : ∀ value ∈ values, good value) {limit : Nat} (pace : Pace) {merging : Merging α}
    (h : merging.Sound key values) (hlimit : merging.left < limit) :
    ∃ merged, merge direction wins limit pace merging = .ok merged ∧
      merged.Sound key values ∧ merged.isOver = true := by
  induction limit generalizing pace merging with
  | zero => omega
  | succ limit ih =>
    cases pace with
    | stretched =>
      obtain ⟨next, count, hnext, hsound, hless⟩ :=
        Merging.stretches_advances direction hwins hgood merging h
      rw [merge, hnext, ok_bind]
      dsimp only
      by_cases hover : next.isOver = true
      · exact ⟨next, by rw [if_pos hover]; rfl, hsound, hover⟩
      · have hroom : next.left < limit := by
          have := hless.resolve_left hover
          omega
        rw [if_neg hover]
        split
        · exact ih _ hsound hroom
        · exact ih _ (hsound.patience _) hroom
    | single ourRow theirRow =>
      rw [merge]
      by_cases hover : merging.isOver = true
      · exact ⟨merging, by rw [if_pos hover], h, hover⟩
      · obtain ⟨ours, short, theirs, long, hshort, hlong⟩ := Merging.exists_heads hover
        have hcompare := hwins theirs ours (hgood theirs (h.mem_of_long (by simp [hlong])))
          (hgood ours (h.mem_of_short (by simp [hshort])))
        obtain ⟨hsound, hless⟩ := h.takeLower hshort hlong
        rw [if_neg hover]
        simp only [hshort, hlong, hcompare, ok_bind, decide_eq_true_eq]
        generalize (if key theirs < key ours then merging.takeLong 1 else merging.takeShort 1) =
          next at hsound hless ⊢
        generalize (if key theirs < key ours then theirRow + 1 else ourRow + 1) = inRow
        have hroom : next.left < limit := by omega
        split
        · exact ⟨next, rfl, hsound, ‹_›⟩
        · split
          · exact ih _ hsound hroom
          · exact ih _ (hsound.patience _) hroom

section Runs

variable {before : α → α → Except ε Bool} {first second : List α}

/-- What is merged of two sorted runs where neither start nor end is in place. -/
theorem merge_fromStart_spec (hbefore : ComparesBy before key good)
    (hgood : ∀ value ∈ first ++ second, good value) (hfirst : Ascending key first)
    (hsecond : Ascending key second) {lowest highest : α} (hlowest : second.head? = some lowest)
    (hhighest : first.getLast? = some highest) (hfront : ∀ value ∈ first, key lowest < key value)
    (hbehind : ∀ value ∈ second, key value < key highest) (patience : Nat) {limit : Nat}
    (hlimit : first.length + second.length < limit) :
    ∃ merged, merge .fromStart before limit (.single 0 0)
        (Merging.takeLong { short := first, long := second, merged := [], patience } 1) =
        .ok merged ∧
      Ascending key merged.result ∧ Rearranged key merged.result (first ++ second) := by
  have hsound : Merging.Sound key (first ++ second)
      { short := first, long := second, merged := [], patience } := by
    refine ⟨.refl _, hfirst, hsecond, fun last hlast value hvalue => ?_⟩
    obtain rfl : highest = last := Option.some.inj (hhighest.symm.trans hlast)
    exact hbehind value hvalue
  obtain ⟨rest, rfl⟩ := List.head?_eq_some_iff.mp hlowest
  have hstart := hsound.takeLong 1 fun value hvalue other hother => by
    obtain rfl : value = lowest := by simpa using hvalue
    exact hfront other hother
  have hroom : (Merging.takeLong
      { short := first, long := lowest :: rest, merged := [], patience } 1).left < limit := by
    simp only [Merging.left, Merging.takeLong, List.length_drop, List.length_cons] at hlimit ⊢
    omega
  obtain ⟨merged, hmerge, hmerged, hover⟩ :=
    merge_spec .fromStart hbefore hgood (.single 0 0) hstart hroom
  exact ⟨merged, hmerge, hmerged.result hover⟩

theorem ComparesBy.dual (hbefore : ComparesBy before key good) :
    ComparesBy (fun theirs ours => before ours theirs) (OrderDual.toDual ∘ key) good :=
  fun theirs ours htheirs hours => hbefore ours theirs hours htheirs

theorem Ascending.dual (h : Ascending key first) :
    Ascending (OrderDual.toDual ∘ key) first.reverse :=
  List.pairwise_reverse.mpr h

theorem merge_fromEnd_spec (hbefore : ComparesBy before key good)
    (hgood : ∀ value ∈ first ++ second, good value) (hfirst : Ascending key first)
    (hsecond : Ascending key second) {lowest highest : α} (hlowest : second.head? = some lowest)
    (hhighest : first.getLast? = some highest) (hfront : ∀ value ∈ first, key lowest < key value)
    (hbehind : ∀ value ∈ second, key value < key highest) (patience : Nat) {limit : Nat}
    (hlimit : first.length + second.length < limit) :
    ∃ merged, merge .fromEnd (fun theirs ours => before ours theirs) limit (.single 0 0)
        (Merging.takeLong
          { short := second.reverse, long := first.reverse, merged := [], patience } 1) =
        .ok merged ∧
      Ascending key merged.result.reverse ∧
      Rearranged key merged.result.reverse (first ++ second) := by
  -- from the end, the larger key goes first
  have hsound : Merging.Sound (OrderDual.toDual ∘ key) (second.reverse ++ first.reverse)
      { short := second.reverse, long := first.reverse, merged := [], patience } := by
    refine ⟨.refl _, hsecond.dual, hfirst.dual, fun last hlast value hvalue => ?_⟩
    rw [List.getLast?_reverse] at hlast
    obtain rfl : lowest = last := Option.some.inj (hlowest.symm.trans hlast)
    exact hfront value (List.mem_reverse.mp hvalue)
  have hstart := hsound.takeLong 1 fun value hvalue other hother => by
    rw [← List.head?_reverse] at hhighest
    obtain ⟨rest, hrest⟩ := List.head?_eq_some_iff.mp hhighest
    obtain rfl : value = highest := by simpa [hrest] using hvalue
    exact hbehind other (List.mem_reverse.mp hother)
  have hreversedGood (value : α) (hvalue : value ∈ second.reverse ++ first.reverse) : good value :=
    hgood value (by simpa [or_comm] using hvalue)
  have hroom : (Merging.takeLong
      { short := second.reverse, long := first.reverse, merged := [], patience } 1).left <
        limit := by
    simp only [Merging.left, Merging.takeLong, List.length_drop, List.length_reverse]
    omega
  obtain ⟨merged, hmerge, hmerged, hover⟩ :=
    merge_spec .fromEnd hbefore.dual hreversedGood (.single 0 0) hstart hroom
  obtain ⟨hascending, hrearranged⟩ := hmerged.result hover
  refine ⟨merged, hmerge, List.pairwise_reverse.mpr hascending, fun k => ?_⟩
  have hfilter := congrArg List.reverse (hrearranged (OrderDual.toDual k))
  simpa [List.filter_reverse] using hfilter

/-- A start and an end that are in place go around what is merged of the rest. -/
theorem around_spec {start ours theirs behind merged : List α}
    (hfirst : Ascending key (start ++ ours)) (hsecond : Ascending key (theirs ++ behind))
    (hstart : ∀ value ∈ start, ∀ other ∈ theirs ++ behind, key value ≤ key other)
    (hbehind : ∀ value ∈ ours, ∀ other ∈ behind, key value ≤ key other)
    (hmerged : Ascending key merged) (hrearranged : Rearranged key merged (ours ++ theirs)) :
    Ascending key (start ++ merged ++ behind) ∧
      Rearranged key (start ++ merged ++ behind) (start ++ ours ++ (theirs ++ behind)) := by
  obtain ⟨hstartAscending, -, hstartOurs⟩ := List.pairwise_append.mp hfirst
  obtain ⟨-, hbehindAscending, htheirsBehind⟩ := List.pairwise_append.mp hsecond
  have hmem (value : α) : value ∈ merged ↔ value ∈ ours ∨ value ∈ theirs := by
    rw [hrearranged.perm.mem_iff, List.mem_append]
  constructor
  · refine List.pairwise_append.mpr ⟨List.pairwise_append.mpr ⟨hstartAscending, hmerged, ?_⟩,
      hbehindAscending, ?_⟩
    · intro value hvalue other hother
      rcases (hmem other).mp hother with hother | hother
      · exact hstartOurs value hvalue other hother
      · exact hstart value hvalue other (List.mem_append_left _ hother)
    · intro value hvalue other hother
      rcases List.mem_append.mp hvalue with hvalue | hvalue
      · exact hstart value hvalue other (List.mem_append_right _ hother)
      · rcases (hmem value).mp hvalue with hvalue | hvalue
        · exact hbehind value hvalue other hother
        · exact htheirsBehind value hvalue other hother
  · simpa using ((Rearranged.refl start).append hrearranged).append (.refl behind)

/-- Merges what is left of two runs once the values in place are set apart. -/
def mergeMiddle (before : α → α → Except ε Bool) (patience : Nat) (first second : List α) :
    Except ε (List α × Nat) := do
  if second.isEmpty then return (first, patience)
  let limit := 2 * (first.length + second.length) + 2
  if first.length ≤ second.length then
    let merged ← merge .fromStart before limit (.single 0 0)
      (Merging.takeLong { short := first, long := second, merged := [], patience } 1)
    return (merged.result, merged.patience)
  else
    let merged ← merge .fromEnd (fun theirs ours => before ours theirs) limit (.single 0 0)
      (Merging.takeLong
        { short := second.reverse, long := first.reverse, merged := [], patience } 1)
    return (merged.result.reverse, merged.patience)

theorem mergeMiddle_spec (hbefore : ComparesBy before key good) (patience : Nat)
    (hgood : ∀ value ∈ first ++ second, good value) (hfirst : Ascending key first)
    (hsecond : Ascending key second) {highest : α} (hhighest : first.getLast? = some highest)
    (hfront : ∀ lowest, second.head? = some lowest → ∀ value ∈ first, key lowest < key value)
    (hbehind : ∀ value ∈ second, key value < key highest) :
    ∃ merged next, mergeMiddle before patience first second = .ok (merged, next) ∧
      Ascending key merged ∧ Rearranged key merged (first ++ second) := by
  have hlimit : first.length + second.length < 2 * (first.length + second.length) + 2 := by omega
  cases hlowest : second.head? with
  | none =>
    obtain rfl := List.head?_eq_none_iff.mp hlowest
    exact ⟨first, patience, rfl, hfirst, by simpa using Rearranged.refl first⟩
  | some lowest =>
    have hempty : ¬second.isEmpty = true := by
      rintro h
      rw [List.isEmpty_iff.mp h] at hlowest
      cases hlowest
    rw [mergeMiddle, if_neg hempty]
    dsimp only
    split
    · obtain ⟨merged, hmerge, hmerged⟩ := merge_fromStart_spec hbefore hgood hfirst hsecond
        hlowest hhighest (hfront lowest hlowest) hbehind patience hlimit
      exact ⟨_, _, by rw [hmerge]; rfl, hmerged⟩
    · obtain ⟨merged, hmerge, hmerged⟩ := merge_fromEnd_spec hbefore hgood hfirst hsecond
        hlowest hhighest (hfront lowest hlowest) hbehind patience hlimit
      exact ⟨_, _, by rw [hmerge]; rfl, hmerged⟩

theorem mergeRuns_eq_of_none {lowest : α} {rest : List α} {inPlace : Nat} (patience : Nat)
    (hcount : countLeading .fromStart (fun value => do return !(← before lowest value)) first =
      .ok inPlace)
    (hhighest : (first.drop inPlace).getLast? = none) :
    mergeRuns before patience first (lowest :: rest) =
      .ok (first.take inPlace ++ lowest :: rest, patience) := by
  rw [mergeRuns, hcount, ok_bind]
  dsimp only
  rw [hhighest]
  rfl

theorem mergeRuns_eq_of_some {lowest highest : α} {rest : List α} {inPlace inPlace' : Nat}
    (patience : Nat)
    (hcount : countLeading .fromStart (fun value => do return !(← before lowest value)) first =
      .ok inPlace)
    (hhighest : (first.drop inPlace).getLast? = some highest)
    (hcount' : countLeading .fromEnd (fun value => do return !(← before value highest))
      (lowest :: rest).reverse = .ok inPlace') :
    mergeRuns before patience first (lowest :: rest) = do
      let middle ← mergeMiddle before patience (first.drop inPlace)
        ((lowest :: rest).take ((lowest :: rest).length - inPlace'))
      return (first.take inPlace ++ middle.1 ++
        (lowest :: rest).drop ((lowest :: rest).length - inPlace'), middle.2) := by
  rw [mergeRuns, hcount, ok_bind]
  dsimp only
  rw [hhighest]
  dsimp only
  rw [hcount', ok_bind, mergeMiddle]
  generalize (lowest :: rest).take ((lowest :: rest).length - inPlace') = theirs
  generalize first.drop inPlace = ours
  by_cases hempty : theirs.isEmpty = true
  · simp only [if_pos hempty]
    rfl
  · simp only [if_neg hempty]
    by_cases hshorter : ours.length ≤ theirs.length
    · simp only [if_pos hshorter, bind_assoc]
      rfl
    · simp only [if_neg hshorter, bind_assoc]
      rfl

/-- Two sorted runs are merged into one, in which values of the first run go in front
    of those of the second run with the same key. -/
theorem mergeRuns_spec (hbefore : ComparesBy before key good) (patience : Nat)
    (hgood : ∀ value ∈ first ++ second, good value) (hfirst : Ascending key first)
    (hsecond : Ascending key second) :
    ∃ values next, mergeRuns before patience first second = .ok (values, next) ∧
      Ascending key values ∧ Rearranged key values (first ++ second) := by
  have hfirstGood (value : α) (hvalue : value ∈ first) : good value :=
    hgood value (List.mem_append_left _ hvalue)
  have hsecondGood (value : α) (hvalue : value ∈ second) : good value :=
    hgood value (List.mem_append_right _ hvalue)
  cases second with
  | nil => exact ⟨first, patience, rfl, hfirst, by simpa using Rearranged.refl first⟩
  | cons lowest rest =>
    have hleast (value : α) (hvalue : value ∈ lowest :: rest) : key lowest ≤ key value :=
      hsecond.head_le List.head?_cons hvalue
    obtain ⟨inPlace, hcount, hstart, hours⟩ := countLeading_notAfter .fromStart hbefore
      (hsecondGood lowest List.mem_cons_self) hfirstGood hfirst
    have hsplit : first.take inPlace ++ first.drop inPlace = first := List.take_append_drop _ _
    have hfirstSplit : Ascending key (first.take inPlace ++ first.drop inPlace) :=
      hsplit.symm ▸ hfirst
    cases hhighest : (first.drop inPlace).getLast? with
    | none =>
      have hnone := List.getLast?_eq_none_iff.mp hhighest
      have hsecondSplit : Ascending key ((lowest :: rest) ++ []) := by simpa using hsecond
      have haround := around_spec hfirstSplit hsecondSplit
        (fun value hvalue other hother =>
          (hstart value hvalue).trans (hleast other (by simpa using hother))) (by simp) hsecond
        (by rw [hnone]; exact .refl _)
      rw [hsplit, List.append_nil, List.append_nil] at haround
      exact ⟨_, _, mergeRuns_eq_of_none patience hcount hhighest, haround⟩
    | some highest =>
      have hgreatest (value : α) (hvalue : value ∈ first.drop inPlace) : key value ≤ key highest :=
        Ascending.le_getLast (List.pairwise_append.mp hfirstSplit).2.1 hhighest hvalue
      have hhighestMem := List.mem_of_mem_drop (List.mem_of_getLast? hhighest)
      obtain ⟨inPlace', hcount', hbehind, htheirs⟩ := countLeading_notAfter .fromEnd hbefore.dual
        (hfirstGood highest hhighestMem)
        (fun value hvalue => hsecondGood value (List.mem_reverse.mp hvalue)) hsecond.dual
      rw [mergeRuns_eq_of_some patience hcount hhighest hcount']
      rw [List.take_reverse] at hbehind
      rw [List.drop_reverse] at htheirs
      simp only [List.mem_reverse, Function.comp_apply, OrderDual.toDual_le_toDual,
        OrderDual.toDual_lt_toDual] at hbehind htheirs
      generalize (lowest :: rest).length - inPlace' = count at *
      have hsplit' : (lowest :: rest).take count ++ (lowest :: rest).drop count = lowest :: rest :=
        List.take_append_drop _ _
      have hsecondSplit :
          Ascending key ((lowest :: rest).take count ++ (lowest :: rest).drop count) :=
        hsplit'.symm ▸ hsecond
      obtain ⟨merged, next, hmerge, hascending, hrearranged⟩ := mergeMiddle_spec hbefore patience
        (fun value hvalue => by
          rcases List.mem_append.mp hvalue with hvalue | hvalue
          · exact hfirstGood value (List.mem_of_mem_drop hvalue)
          · exact hsecondGood value (List.mem_of_mem_take hvalue))
        (List.pairwise_append.mp hfirstSplit).2.1 (List.pairwise_append.mp hsecondSplit).1 hhighest
        (fun head hhead => by
          obtain rfl : head = lowest := by
            cases count with
            | zero => cases hhead
            | succ count => exact (Option.some.inj hhead).symm
          exact hours) htheirs
      have haround := around_spec hfirstSplit hsecondSplit
        (fun value hvalue other hother =>
          (hstart value hvalue).trans (hleast other (hsplit' ▸ hother)))
        (fun value hvalue other hother => (hgreatest value hvalue).trans (hbehind other hother))
        hascending hrearranged
      rw [hsplit, hsplit'] at haround
      exact ⟨_, next, by rw [hmerge]; rfl, haround⟩

end Runs

end DartModels.Sorting
