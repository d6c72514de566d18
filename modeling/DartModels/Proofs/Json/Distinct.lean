import DartModels.Json.Reader
import DartModels.Proofs.Outcome
import DartModels.Proofs.Text.Blank
import Mathlib.Data.List.Induction
import Mathlib.Data.List.Nodup

namespace DartModels.Json

/-- Where names are distinct, each one has its own value. -/
theorem lookup_eq_some_iff {α : Type} {members : List (String × α)}
    (hnames : (members.map Prod.fst).Nodup) {name : String} {value : α} :
    members.lookup name = some value ↔ (name, value) ∈ members := by
  induction members with
  | nil => simp
  | cons member members ih =>
    obtain ⟨first, own⟩ := member
    rw [List.map_cons, List.nodup_cons] at hnames
    rw [List.lookup_cons, List.mem_cons, Prod.mk.injEq]
    by_cases hsame : name = first
    · subst hsame
      have hother : (name, value) ∉ members := fun hmem =>
        hnames.1 (List.mem_map.mpr ⟨(name, value), hmem, rfl⟩)
      simp [hother, eq_comm]
    · rw [beq_eq_false_iff_ne.mpr hsame]
      simp [hsame, ih hnames.2]

/-- No object in a value, however deep, names a member twice. -/
inductive Distinct : Json → Prop where
  | null : Distinct .null
  | bool (value : Bool) : Distinct (.bool value)
  | int (value : Int) : Distinct (.int value)
  | float (value : Binary64) : Distinct (.float value)
  | text (value : String) : Distinct (.text value)
  | array {items : List Json} (values : ∀ item ∈ items, Distinct item) : Distinct (.array items)
  | object {members : Members} (names : (names members).Nodup)
      (values : ∀ member ∈ members, Distinct member.2) : Distinct (.object members)

/-- An assignment adds no name but its own, and that only where it is new. -/
theorem names_put (name : String) (value : Json) (members : Members) :
    names (put name value members) =
      if name ∈ names members then names members else names members ++ [name] := by
  induction members with
  | nil => simp [put, names]
  | cons member members ih =>
    rw [put]
    by_cases hsame : member.1 = name
    · simp [names, hsame]
    · rw [if_neg hsame, names, List.map_cons, ← names, ih]
      split <;> simp_all [names, Ne.symm hsame]

theorem mem_put {name : String} {value : Json} {members : Members} {member : String × Json}
    (h : member ∈ put name value members) : member = (name, value) ∨ member ∈ members := by
  induction members with
  | nil => simpa [put] using h
  | cons first members ih =>
    rw [put] at h
    split at h
    · exact (List.mem_cons.mp h).imp_right (List.mem_cons_of_mem _)
    · rcases List.mem_cons.mp h with rfl | h
      · exact .inr List.mem_cons_self
      · exact (ih h).imp_right (List.mem_cons_of_mem _)

theorem assign_concat (assignments : Members) (member : String × Json) :
    assign (assignments ++ [member]) = put member.1 member.2 (assign assignments) := by
  simp [assign]

theorem nodup_names_assign (assignments : Members) : (names (assign assignments)).Nodup := by
  induction assignments using List.reverseRecOn with
  | nil => exact List.nodup_nil
  | append_singleton assignments member ih =>
    rw [assign_concat, names_put]
    split
    · exact ih
    · next hnew => simpa using List.Nodup.concat hnew ih

theorem mem_of_mem_assign {assignments : Members} {member : String × Json}
    (h : member ∈ assign assignments) : member ∈ assignments := by
  induction assignments using List.reverseRecOn with
  | nil => simp [assign] at h
  | append_singleton assignments last ih =>
    rw [assign_concat] at h
    rcases mem_put h with rfl | h
    · simp
    · exact List.mem_append_left _ (ih h)

theorem Distinct.assign {assignments : Members}
    (h : ∀ member ∈ assignments, Distinct member.2) : Distinct (.object (assign assignments)) :=
  .object (nodup_names_assign _) fun member hmem => h member (mem_of_mem_assign hmem)

theorem Distinct.of_readPlain {cs : List Char} {reading : Json × List Char}
    (h : readPlain cs = some reading) : Distinct reading.1 := by
  have hmagnitude (negative : Bool) (cs : List Char)
      (h : readMagnitude negative cs = some reading) : Distinct reading.1 := by
    obtain ⟨⟨whole, rest⟩, -, rfl⟩ := Option.map_eq_some_iff.mp h
    dsimp only
    split
    · exact .int _
    · exact .float _
  unfold readPlain at h
  split at h
  · cases h; exact .null
  · cases h; exact .bool true
  · cases h; exact .bool false
  · cases h; exact .float _
  · cases h; exact .float _
  · cases h; exact .float _
  · unfold readNumber at h
    split at h
    · exact hmagnitude true _ h
    · exact hmagnitude false _ h

variable [Text.HalfBlock] {limit : Option Nat}

/-- What the readers of one depth give has distinct names everywhere. -/
structure ReadsDistinct (limit : Option Nat) (depth : Nat) : Prop where
  value : ∀ {cs value rest}, readValue limit depth cs = .ok (value, rest) → Distinct value
  items : ∀ {cs items rest}, readItems limit depth cs = .ok (items, rest) →
    ∀ item ∈ items, Distinct item
  members : ∀ {cs members rest}, readMembers limit depth cs = .ok (members, rest) →
    ∀ member ∈ members, Distinct member.2

namespace ReadsDistinct

variable {depth : Nat} {cs rest : List Char}

theorem readValue_succ (h : ReadsDistinct limit depth) {value : Json}
    (hread : readValue limit (depth + 1) cs = .ok (value, rest)) : Distinct value := by
  unfold readValue at hread
  split at hread
  · contradiction
  · obtain ⟨_, -, heq⟩ := map_eq_ok_iff.mp hread
    cases heq
    exact .text _
  · next hdepth =>
    cases hdepth
    split at hread
    · cases hread
      exact .array (by simp)
    · obtain ⟨⟨items, _⟩, hitems, heq⟩ := map_eq_ok_iff.mp hread
      cases heq
      exact .array (h.items hitems)
  · next hdepth =>
    cases hdepth
    split at hread
    · cases hread
      exact .object (by simp [names]) (by simp)
    · obtain ⟨⟨members, _⟩, hmembers, heq⟩ := map_eq_ok_iff.mp hread
      cases heq
      exact .assign (h.members hmembers)
  · split at hread
    · next hplain =>
      split at hread
      · cases hread
        exact .of_readPlain hplain
      · cases hread
    · cases hread

theorem readItems_succ (h : ReadsDistinct limit depth) {items : List Json}
    (hread : readItems limit (depth + 1) cs = .ok (items, rest)) :
    ∀ item ∈ items, Distinct item := by
  unfold readItems at hread
  obtain ⟨⟨item, behind⟩, hitem, hread⟩ := bind_eq_ok_iff.mp hread
  dsimp only at hread
  split at hread
  · cases hread
    simpa using h.value hitem
  · obtain ⟨⟨more, _⟩, hmore, hread⟩ := bind_eq_ok_iff.mp hread
    cases hread
    exact List.forall_mem_cons.mpr ⟨h.value hitem, h.items hmore⟩
  · cases hread

theorem readMembers_succ (h : ReadsDistinct limit depth) {members : Members}
    (hread : readMembers limit (depth + 1) cs = .ok (members, rest)) :
    ∀ member ∈ members, Distinct member.2 := by
  unfold readMembers at hread
  split at hread
  · contradiction
  · next hdepth =>
    cases hdepth
    obtain ⟨⟨name, behindName⟩, -, hread⟩ := bind_eq_ok_iff.mp hread
    dsimp only at hread
    split at hread
    · obtain ⟨⟨value, behind⟩, hvalue, hread⟩ := bind_eq_ok_iff.mp hread
      dsimp only at hread
      split at hread
      · cases hread
        simpa using h.value hvalue
      · obtain ⟨⟨more, _⟩, hmore, hread⟩ := bind_eq_ok_iff.mp hread
        cases hread
        exact List.forall_mem_cons.mpr ⟨h.value hvalue, h.members hmore⟩
      · cases hread
    · cases hread
  · cases hread

end ReadsDistinct

theorem readsDistinct (limit : Option Nat) (depth : Nat) : ReadsDistinct limit depth := by
  induction depth with
  | zero => constructor <;> intro _ _ _ h <;> cases h
  | succ depth ih => exact ⟨ih.readValue_succ, ih.readItems_succ, ih.readMembers_succ⟩

/-- What is read from a text names no member twice. -/
theorem distinct_of_parseWithin {text : String} {value : Json}
    (h : parseWithin limit text = .ok value) :
    Distinct value := by
  unfold parseWithin at h
  dsimp only at h
  split at h
  · cases h
  · obtain ⟨⟨read, rest⟩, hread, h⟩ := bind_eq_ok_iff.mp h
    dsimp only at h
    split at h
    · cases h
      exact (readsDistinct _ _).value hread
    · cases h

/-- No value starts with a blank. -/
theorem readValue_blank {cs : List Char} (hblank : ∀ c ∈ cs, Text.isBlank c = true) (depth : Nat) :
    readValue limit depth cs = .error (.malformed ⟨.expectingValue, cs⟩) := by
  cases depth with
  | zero => rfl
  | succ depth =>
    cases cs with
    | nil => rfl
    | cons c cs =>
      have hne (d : Char) (hd : Text.isBlank d = false) : c ≠ d := by
        rintro rfl
        simp [hblank] at hd
      have hplain : readPlain (c :: cs) = none := by
        simp [readPlain, readNumber, readMagnitude, readWhole, spanDigits,
          Text.isDigit_of_isBlank (hblank c List.mem_cons_self), hne 'n' rfl, hne 't' rfl,
          hne 'f' rfl, hne 'N' rfl, hne 'I' rfl, hne '-' rfl, hne '0' rfl]
      rw [readValue, hplain]
      all_goals simp [hne '"' rfl, hne '[' rfl, hne '\x7b' rfl]

/-- A text of blanks is not JSON. -/
theorem isBlankText_of_load {text : String} (h : ∀ error, load text ≠ .error (.malformed error)) :
    Text.isBlankText text = false := by
  rw [Bool.eq_false_iff]
  intro hblank
  have hcs : ∀ c ∈ skipGap text.toList, Text.isBlank c = true := fun c hc =>
    List.all_eq_true.mp hblank c ((List.dropWhile_suffix _).subset hc)
  unfold load parseWithin at h
  dsimp only at h
  split at h
  · exact h _ rfl
  · rw [readValue_blank hcs] at h
    exact h _ rfl

end DartModels.Json
