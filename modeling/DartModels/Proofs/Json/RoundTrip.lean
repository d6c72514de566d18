import DartModels.Proofs.Json.Text
import DartModels.Proofs.Outcome
import Mathlib.Data.List.Induction

namespace DartModels.Json

/-! ### Whole numbers -/

/-- What follows a number does not go on it. -/
def EndsNumber (cs : List Char) : Prop :=
  ∀ c ∈ cs.head?, c.isDigit = false ∧ c ≠ '.' ∧ c ≠ 'e' ∧ c ≠ 'E'

theorem EndsNumber.nil : EndsNumber [] := by
  simp [EndsNumber]

/-- Only zero is written with a zero in front. -/
theorem toDigits_head_ne_zero {n : Nat} (hn : 0 < n) :
    ∃ digit digits, Nat.toDigits 10 n = digit :: digits ∧ digit ≠ '0' := by
  induction n using Nat.strongRecOn with
  | ind n ih =>
    by_cases hlt : n < 10
    · have hdigit : ∀ n < 10, 0 < n → Nat.digitChar n ≠ '0' := by decide
      exact ⟨_, _, Nat.toDigits_of_lt_base hlt, hdigit n hlt hn⟩
    · obtain ⟨digit, digits, heq, hne⟩ := ih (n / 10) (by omega) (by omega)
      refine ⟨digit, digits ++ [Nat.digitChar (n % 10)], ?_, hne⟩
      rw [Nat.toDigits_of_base_le (by decide) (Nat.not_lt.mp hlt), heq, List.cons_append]

theorem spanDigits_toDigits (n : Nat) {rest : List Char} (hrest : EndsNumber rest) :
    spanDigits (Nat.toDigits 10 n ++ rest) = (Nat.toDigits 10 n, rest) := by
  have hdigits : ∀ c ∈ Nat.toDigits 10 n, c.isDigit = true := fun c hc =>
    Nat.isDigit_of_mem_toDigits (by decide) (by decide) hc
  have hstop : rest.takeWhile Char.isDigit = [] ∧ rest.dropWhile Char.isDigit = rest := by
    cases rest with
    | nil => simp
    | cons c rest => simp [(hrest c rfl).1]
  rw [spanDigits, List.takeWhile_append_of_pos hdigits, List.dropWhile_append_of_pos hdigits,
    hstop.1, hstop.2, List.append_nil]

theorem readWhole_toDigits (n : Nat) {rest : List Char} (hrest : EndsNumber rest) :
    readWhole (Nat.toDigits 10 n ++ rest) = some (Nat.toDigits 10 n, rest) := by
  obtain rfl | hn := Nat.eq_zero_or_pos n
  · simp [readWhole]
  · obtain ⟨digit, digits, heq, hne⟩ := toDigits_head_ne_zero hn
    have hspan := spanDigits_toDigits n hrest
    rw [heq, List.cons_append] at hspan ⊢
    simp [readWhole, hspan, hne]

theorem readMagnitude_toDigits (negative : Bool) (n : Nat) {rest : List Char}
    (hrest : EndsNumber rest) :
    readMagnitude negative (Nat.toDigits 10 n ++ rest) =
      some (.int (if negative then -n else n), rest) := by
  have hfraction : readFraction rest = ([], rest) := by
    cases rest with
    | nil => rfl
    | cons c rest => simp [readFraction, (hrest c rfl).2.1]
  have hexponent : readExponent rest = (none, rest) := by
    cases rest with
    | nil => rfl
    | cons c rest => simp [readExponent, (hrest c rfl).2.2]
  simp [readMagnitude, readWhole_toDigits n hrest, hfraction, hexponent]

/-- A digit starts none of the values that have a name. -/
theorem readPlain_digit {digit : Char} (hdigit : digit.isDigit = true) (cs : List Char) :
    readPlain (digit :: cs) = readMagnitude false (digit :: cs) := by
  have hne (c : Char) (hc : c.isDigit = false) : digit ≠ c := by
    rintro rfl
    simp [hc] at hdigit
  simp [readPlain, readNumber, hne 'n' rfl, hne 't' rfl, hne 'f' rfl, hne 'N' rfl, hne 'I' rfl,
    hne '-' rfl]

/-- Neither does a minus sign in front of a digit. -/
theorem readPlain_minus {digit : Char} (hdigit : digit.isDigit = true) (cs : List Char) :
    readPlain ('-' :: digit :: cs) = readMagnitude true (digit :: cs) := by
  have hne : digit ≠ 'I' := by
    rintro rfl
    simp at hdigit
  simp [readPlain, readNumber, hne]

theorem readPlain_writeInt (n : Int) {rest : List Char} (hrest : EndsNumber rest) :
    readPlain (writeInt n ++ rest) = some (.int n, rest) := by
  have hmagnitude (negative : Bool) := readMagnitude_toDigits negative n.natAbs hrest
  obtain ⟨digit, digits, heq⟩ :=
    List.exists_cons_of_ne_nil (Nat.toDigits_ne_nil (n := n.natAbs) (b := 10))
  have hdigit : digit.isDigit = true :=
    Nat.isDigit_of_mem_toDigits (n := n.natAbs) (by decide) (by decide) (heq ▸ List.mem_cons_self)
  rw [heq, List.cons_append] at hmagnitude
  by_cases hn : n < 0
  · have hsize : -(n.natAbs : Int) = n := by omega
    rw [writeInt, if_pos hn, heq, List.cons_append, List.cons_append, readPlain_minus hdigit,
      hmagnitude, if_pos rfl, hsize]
  · have hsize : (n.natAbs : Int) = n := by omega
    rw [writeInt, if_neg hn, heq, List.cons_append, readPlain_digit hdigit, hmagnitude,
      if_neg Bool.false_ne_true, hsize]

/-- A whole number starts with its sign or with a digit. -/
theorem exists_writeInt_eq (n : Int) :
    ∃ c cs, writeInt n = c :: cs ∧ (c = '-' ∨ c.isDigit = true) := by
  unfold writeInt
  split
  · exact ⟨_, _, rfl, .inl rfl⟩
  · obtain ⟨digit, digits, heq⟩ :=
      List.exists_cons_of_ne_nil (Nat.toDigits_ne_nil (n := n.natAbs) (b := 10))
    exact ⟨digit, digits, heq, .inr (Nat.isDigit_of_mem_toDigits (n := n.natAbs) (by decide)
      (by decide) (heq ▸ List.mem_cons_self))⟩

/-- The least number that has more digits than some count. -/
def longerThan (count : Nat) : Nat :=
  Nat.pow 10 count

theorem hasFewDigits_longerThan {limit : Option Nat} {most : Nat} (hlimit : limit = some most)
    (hmost : 0 < most) : hasFewDigits limit (.int (longerThan most)) = false := by
  have hlength : ¬(Nat.toDigits 10 (longerThan most)).length ≤ most := by
    rw [Nat.length_toDigits_le_iff (by decide) hmost]
    exact Nat.lt_irrefl _
  simpa [hasFewDigits, hlimit] using hlength

/-- A smaller number has no more digits. -/
theorem hasFewDigits_of_le {limit : Option Nat} {m n : Nat} (hle : m ≤ n)
    (hdigits : hasFewDigits limit (.int n) = true) : hasFewDigits limit (.int m) = true := by
  have hlength : (Nat.toDigits 10 m).length ≤ (Nat.toDigits 10 n).length := by
    have hpos : 0 < (Nat.toDigits 10 n).length := Nat.length_toDigits_pos
    have hn : n < 10 ^ (Nat.toDigits 10 n).length :=
      (Nat.length_toDigits_le_iff (by decide) hpos).mp (Nat.le_refl _)
    exact (Nat.length_toDigits_le_iff (by decide) hpos).mpr (Nat.lt_of_le_of_lt hle hn)
  cases limit with
  | none => rfl
  | some most =>
    simp only [hasFewDigits, Option.all_some, Int.natAbs_natCast, decide_eq_true_eq] at hdigits ⊢
    exact Nat.le_trans hlength hdigits

/-! ### Values -/

/-- The values of which a text keeps all: no number has a fraction or more digits than a limit
    allows, and no object names a member twice. -/
inductive Exact (limit : Option Nat) : Json → Prop where
  | null : Exact limit .null
  | bool (value : Bool) : Exact limit (.bool value)
  | int (value : Int) (digits : hasFewDigits limit (.int value) = true) : Exact limit (.int value)
  | text (value : String) : Exact limit (.text value)
  | array {items : List Json} (values : ∀ item ∈ items, Exact limit item) :
    Exact limit (.array items)
  | object {members : Members} (distinct : (names members).Nodup)
      (values : ∀ member ∈ members, Exact limit member.2) : Exact limit (.object members)

/-- The characters that exact values start with. -/
def startsValue (c : Char) : Bool :=
  ['"', '[', '\x7b', 'n', 't', 'f', '-'].contains c || c.isDigit

/-- No other character starts a value. -/
theorem ne_of_startsValue {c d : Char} (hc : startsValue c = true)
    (hd : startsValue d = false) : c ≠ d := by
  rintro rfl
  simp [hd] at hc

theorem isGap_of_startsValue {c : Char} (hc : startsValue c = true) : isGap c = false := by
  simp [isGap, ne_of_startsValue hc (d := ' ') rfl, ne_of_startsValue hc (d := '\t') rfl,
    ne_of_startsValue hc (d := '\n') rfl, ne_of_startsValue hc (d := '\r') rfl]

theorem EndsNumber.comma (cs : List Char) : EndsNumber (',' :: cs) := by
  simp [EndsNumber]

theorem EndsNumber.bracket (cs : List Char) : EndsNumber (']' :: cs) := by
  simp [EndsNumber]

theorem EndsNumber.brace (cs : List Char) : EndsNumber ('\x7d' :: cs) := by
  simp [EndsNumber]

/-- Blanks do not go on a number. -/
theorem EndsNumber.gap {gap : List Char} (hgap : ∀ c ∈ gap, isGap c = true) {cs : List Char}
    (hcs : EndsNumber cs) : EndsNumber (gap ++ cs) := by
  cases gap with
  | nil => exact hcs
  | cons c gap =>
    have hc := hgap c List.mem_cons_self
    simp only [isGap, Bool.or_eq_true, beq_iff_eq] at hc
    obtain ((rfl | rfl) | rfl) | rfl := hc <;> simp [EndsNumber]

theorem skipGap_cons {c : Char} (hc : isGap c = false) (cs : List Char) :
    skipGap (c :: cs) = c :: cs := by
  simp [skipGap, hc]

theorem skipGap_blank (cs : List Char) : skipGap (' ' :: cs) = skipGap cs := by
  simp [skipGap, isGap]

theorem skipGap_append {gap : List Char} (hgap : ∀ c ∈ gap, isGap c = true) (cs : List Char) :
    skipGap (gap ++ cs) = skipGap cs :=
  List.dropWhile_append_of_pos hgap

/-- What stands in front of an item is blank. -/
theorem isGap_of_mem_lineBreak (layout : Layout) (level : Nat) :
    ∀ c ∈ layout.lineBreak level, isGap c = true := by
  cases layout with
  | oneLine => simp [Layout.lineBreak]
  | indented width =>
    rw [Layout.lineBreak, List.forall_mem_cons]
    refine ⟨by decide, fun c hc => ?_⟩
    rw [List.eq_of_mem_replicate hc]
    decide

/-- Behind the comma between two items there are blanks only. -/
theorem separator_eq (layout : Layout) (level : Nat) :
    ∃ gap, layout.separator level = ',' :: gap ∧ ∀ c ∈ gap, isGap c = true := by
  cases layout with
  | oneLine => exact ⟨[' '], rfl, by decide⟩
  | indented width => exact ⟨_, rfl, isGap_of_mem_lineBreak (.indented width) level⟩

theorem put_of_notMem {name : String} {value : Json} {members : Members}
    (hname : name ∉ names members) : put name value members = members ++ [(name, value)] := by
  induction members with
  | nil => rfl
  | cons member members ih =>
    simp only [names, List.map_cons, List.mem_cons, not_or] at hname
    simp [put, Ne.symm hname.1, ih hname.2]

/-- Members with distinct names stay as they are. -/
theorem assign_of_nodup {members : Members} (hdistinct : (names members).Nodup) :
    assign members = members := by
  induction members using List.reverseRecOn with
  | nil => rfl
  | append_singleton members member ih =>
    simp only [names, List.map_append, List.nodup_append] at hdistinct
    have hmembers : assign members = members := ih hdistinct.1
    have hname : member.1 ∉ names members := fun hmem =>
      hdistinct.2.2 _ hmem _ (by simp) rfl
    rw [assign, List.foldl_append, ← assign, hmembers]
    exact put_of_notMem hname

variable [Text.HalfBlock]

/-- What reading a value in some text takes: it starts at once, and it ends where the
    written value does. -/
structure ReadsBack (limit : Option Nat) (layout : Layout) (value : Json) : Prop where
  starts : ∀ level, ∃ c cs, write layout level value = c :: cs ∧ startsValue c = true
  reads : ∀ (level depth : Nat) (rest : List Char),
    (write layout level value).length ≤ depth → EndsNumber rest →
      readValue limit depth (write layout level value ++ rest) = .ok (value, rest)

variable {limit : Option Nat} {layout : Layout}

theorem skipGap_write {value : Json} (hvalue : ReadsBack limit layout value) (level : Nat)
    (rest : List Char) :
    skipGap (write layout level value ++ rest) = write layout level value ++ rest := by
  obtain ⟨c, cs, hwrite, hc⟩ := hvalue.starts level
  rw [hwrite, List.cons_append, skipGap_cons (isGap_of_startsValue hc)]

/-- Items are read up to the closing bracket. -/
theorem readItems_write {item : Json} (hitem : ReadsBack limit layout item) {items : List Json}
    (hitems : ∀ item ∈ items, ReadsBack limit layout item) (level : Nat) {depth : Nat}
    {gap : List Char} (hgap : ∀ c ∈ gap, isGap c = true) (rest : List Char)
    (hdepth : (write layout level item ++ writeItems layout level items).length < depth) :
    readItems limit depth
        (write layout level item ++ (writeItems layout level items ++ (gap ++ ']' :: rest))) =
      .ok (item :: items, rest) := by
  obtain ⟨depth, rfl⟩ := Nat.exists_eq_add_one_of_ne_zero (Nat.ne_zero_of_lt hdepth)
  induction items generalizing item depth with
  | nil =>
    have hread := hitem.reads level depth _ (by simp [writeItems] at hdepth; omega)
      (.gap hgap (.bracket rest))
    simp [readItems, writeItems, hread, skipGap_append hgap, skipGap_cons, isGap]
  | cons next items ih =>
    obtain ⟨blanks, hseparator, hblanks⟩ := separator_eq layout level
    have hnext := hitems next List.mem_cons_self
    simp only [writeItems, hseparator, List.length_append, List.length_cons] at hdepth
    obtain ⟨depth, rfl⟩ := Nat.exists_eq_add_one_of_ne_zero (n := depth) (by omega)
    have hmore := ih hnext (fun item hmem => hitems item (List.mem_cons_of_mem _ hmem))
      depth (by simp only [List.length_append]; omega)
    have hread := hitem.reads level (depth + 1) _ (by omega)
      (.comma (blanks ++ (write layout level next ++
        (writeItems layout level items ++ (gap ++ ']' :: rest)))))
    rw [readItems]
    simp [writeItems, hseparator, hread, skipGap_cons, isGap, skipGap_append hblanks,
      skipGap_write hnext, hmore]

/-- Members are read up to the closing brace. -/
theorem readMembers_write (name : String) {value : Json} (hvalue : ReadsBack limit layout value)
    {members : Members} (hmembers : ∀ member ∈ members, ReadsBack limit layout member.2)
    (level : Nat) {depth : Nat} {gap : List Char} (hgap : ∀ c ∈ gap, isGap c = true)
    (rest : List Char)
    (hdepth : (write layout level value ++ writeMembers layout level members).length < depth) :
    readMembers limit depth (writeText name ++ (':' :: ' ' :: (write layout level value ++
        (writeMembers layout level members ++ (gap ++ '\x7d' :: rest))))) =
      .ok ((name, value) :: members, rest) := by
  obtain ⟨depth, rfl⟩ := Nat.exists_eq_add_one_of_ne_zero (Nat.ne_zero_of_lt hdepth)
  induction members generalizing name value depth with
  | nil =>
    have hread := hvalue.reads level depth _ (by simp [writeMembers] at hdepth; omega)
      (.gap hgap (.brace rest))
    simp [readMembers, writeText, writeMembers, readSpelling_writeText, skipGap_cons, isGap,
      skipGap_blank, skipGap_write hvalue, hread, skipGap_append hgap]
  | cons next members ih =>
    obtain ⟨blanks, hseparator, hblanks⟩ := separator_eq layout level
    have hnext := hmembers next List.mem_cons_self
    simp only [writeMembers, hseparator, List.length_append, List.length_cons] at hdepth
    obtain ⟨depth, rfl⟩ := Nat.exists_eq_add_one_of_ne_zero (n := depth) (by omega)
    have hmore := ih next.1 hnext
      (fun member hmem => hmembers member (List.mem_cons_of_mem _ hmem))
      depth (by simp only [List.length_append]; omega)
    have hread := hvalue.reads level (depth + 1) _ (by omega)
      (.comma (blanks ++ (writeText next.1 ++ (':' :: ' ' :: (write layout level next.2 ++
        (writeMembers layout level members ++ (gap ++ '\x7d' :: rest)))))))
    rw [writeText, List.cons_append, List.append_assoc, List.singleton_append, readMembers]
    have hquote (cs : List Char) : skipGap (writeText next.1 ++ cs) = writeText next.1 ++ cs :=
      skipGap_cons (by decide) _
    simp [writeMembers, hseparator, readSpelling_writeText, hread, skipGap_cons, isGap,
      skipGap_blank, skipGap_write hvalue, skipGap_append hblanks, hquote, hmore]

/-- A written value has a character, so a depth that its length bounds is none. -/
theorem ReadsBack.of_succ {value : Json}
    (starts : ∀ level, ∃ c cs, write layout level value = c :: cs ∧ startsValue c = true)
    (reads : ∀ (level depth : Nat) (rest : List Char),
      (write layout level value).length ≤ depth + 1 → EndsNumber rest →
        readValue limit (depth + 1) (write layout level value ++ rest) = .ok (value, rest)) :
    ReadsBack limit layout value where
  starts := starts
  reads level depth rest hdepth hrest := by
    obtain ⟨c, cs, hwrite, -⟩ := starts level
    have hpos : depth ≠ 0 := by
      rintro rfl
      simp [hwrite] at hdepth
    obtain ⟨depth, rfl⟩ := Nat.exists_eq_add_one_of_ne_zero hpos
    exact reads level depth rest hdepth hrest

/-- A value that no quote, bracket or brace starts is a plain one. -/
theorem readValue_of_readPlain {c : Char} {cs : List Char} {reading : Json × List Char}
    (hquote : c ≠ '"') (hbracket : c ≠ '[') (hbrace : c ≠ '\x7b') (depth : Nat)
    (hread : readPlain (c :: cs) = some reading) :
    readValue limit (depth + 1) (c :: cs) =
      if reading.1.hasFewDigits limit then .ok reading else .error .tooManyDigits := by
  rw [readValue, hread]
  all_goals simp [hquote, hbracket, hbrace]

/-- A whole number is read back unless it has too many digits. -/
theorem readValue_writeInt (n : Int) (depth : Nat) {rest : List Char} (hrest : EndsNumber rest) :
    readValue limit (depth + 1) (writeInt n ++ rest) =
      if hasFewDigits limit (.int n) then .ok (.int n, rest) else .error .tooManyDigits := by
  obtain ⟨c, cs, hwrite, hc⟩ := exists_writeInt_eq n
  have hne (d : Char) (hd : d ≠ '-') (hdigit : d.isDigit = false) : c ≠ d := by
    rintro rfl
    simp [hd, hdigit] at hc
  have hread := readPlain_writeInt n hrest
  rw [hwrite, List.cons_append] at hread ⊢
  exact readValue_of_readPlain (hne _ (by decide) rfl) (hne _ (by decide) rfl)
    (hne _ (by decide) rfl) depth hread

theorem readsBack_int {n : Int} (hdigits : hasFewDigits limit (.int n) = true) :
    ReadsBack limit layout (.int n) := by
  obtain ⟨c, cs, hwrite, hc⟩ := exists_writeInt_eq n
  refine .of_succ (fun level => ⟨c, cs, by rw [write, hwrite], ?_⟩) ?_
  · rcases hc with rfl | hdigit
    · decide
    · simp [startsValue, hdigit]
  · intro level depth rest _ hrest
    rw [write, readValue_writeInt n depth hrest, if_pos hdigits]

theorem readsBack_array {items : List Json} (hitems : ∀ item ∈ items, ReadsBack limit layout item) :
    ReadsBack limit layout (.array items) := by
  cases items with
  | nil =>
    refine .of_succ (fun _ => ⟨_, _, by rw [write], by decide⟩) fun _ _ _ _ _ => ?_
    simp [write, readValue, skipGap_cons, isGap]
  | cons item items =>
    refine .of_succ (fun _ => ⟨_, _, by rw [write], by decide⟩) ?_
    intro level depth rest hdepth _
    have hitem := hitems item List.mem_cons_self
    simp only [write, List.length_append, List.length_cons, List.length_nil] at hdepth
    have hitemsDepth : (write layout (level + 1) item ++
        writeItems layout (level + 1) items).length < depth := by
      rw [List.length_append]
      omega
    have hread := readItems_write hitem
      (fun item hmem => hitems item (List.mem_cons_of_mem _ hmem)) (level + 1)
      (isGap_of_mem_lineBreak layout level) rest hitemsDepth
    have hskip := skipGap_append (isGap_of_mem_lineBreak layout (level + 1))
    obtain ⟨c, cs, hwrite, hc⟩ := hitem.starts (level + 1)
    simp only [write, List.cons_append, List.append_assoc, List.nil_append]
    rw [hwrite, List.cons_append] at hread ⊢
    simp [readValue, hskip, skipGap_cons (isGap_of_startsValue hc),
      ne_of_startsValue hc (d := ']') rfl, hread, Except.map]

theorem readsBack_object {members : Members} (hdistinct : (names members).Nodup)
    (hmembers : ∀ member ∈ members, ReadsBack limit layout member.2) :
    ReadsBack limit layout (.object members) := by
  cases members with
  | nil =>
    refine .of_succ (fun _ => ⟨_, _, by rw [write], by decide⟩) fun _ _ _ _ _ => ?_
    simp [write, readValue, skipGap_cons, isGap]
  | cons member members =>
    refine .of_succ (fun _ => ⟨_, _, by rw [write], by decide⟩) ?_
    intro level depth rest hdepth _
    simp only [write, List.length_append, List.length_cons, List.length_nil] at hdepth
    have hmembersDepth : (write layout (level + 1) member.2 ++
        writeMembers layout (level + 1) members).length < depth := by
      rw [List.length_append]
      omega
    have hread := readMembers_write member.1 (hmembers member List.mem_cons_self)
      (fun member hmem => hmembers member (List.mem_cons_of_mem _ hmem)) (level + 1)
      (isGap_of_mem_lineBreak layout level) rest hmembersDepth
    have hskip := skipGap_append (isGap_of_mem_lineBreak layout (level + 1))
    simp only [write, writeText, List.cons_append, List.append_assoc, List.nil_append] at hread ⊢
    simp [readValue, hskip, skipGap_cons, isGap, hread, Except.map, assign_of_nodup hdistinct]

theorem Exact.readsBack {value : Json} (hvalue : Exact limit value) :
    ReadsBack limit layout value := by
  induction hvalue with
  | null =>
    refine .of_succ (fun _ => ⟨_, _, by rw [write], by decide⟩) fun _ _ _ _ _ => ?_
    simp [write, readValue, readPlain, hasFewDigits]
  | bool value =>
    cases value
    all_goals
      refine .of_succ (fun _ => ⟨_, _, by rw [write], by decide⟩) fun _ _ _ _ _ => ?_
      simp [write, readValue, readPlain, hasFewDigits]
  | int value hdigits => exact readsBack_int hdigits
  | text value =>
    refine .of_succ (fun _ => ⟨_, _, by rw [write, writeText], by decide⟩) fun _ _ _ _ _ => ?_
    simp [write, writeText, readValue, readSpelling_writeText, Except.map]
  | array _ ih => exact readsBack_array ih
  | object hdistinct _ ih => exact readsBack_object hdistinct ih

/-- Reading undoes writing in any layout. -/
theorem Exact.parseWithin_print {value : Json} (hvalue : Exact limit value) (layout : Layout) :
    parseWithin limit (print layout value) = .ok value := by
  have hback : ReadsBack limit layout value := hvalue.readsBack
  obtain ⟨c, cs, hwrite, hc⟩ := hback.starts 0
  have hread := hback.reads 0 (2 * (write layout 0 value).length + 2) [] (by omega) .nil
  have hskip := skipGap_write hback 0 []
  rw [List.append_nil] at hread hskip
  rw [parseWithin, print, String.toList_ofList, hskip, hread, hwrite]
  simp [ne_of_startsValue hc (d := '\ufeff') rfl, skipGap]

/-- What is written on one line can be loaded. -/
theorem load_print {value : Json} (hvalue : Exact digitLimit value) :
    load (print .oneLine value) = .ok value :=
  hvalue.parseWithin_print .oneLine

/-- A number of too many digits cannot be loaded. -/
theorem load_writeInt {n : Int} (hdigits : hasFewDigits digitLimit (.int n) = false) :
    load (String.ofList (writeInt n)) = .error .tooManyDigits := by
  obtain ⟨c, cs, hwrite, hc⟩ := exists_writeInt_eq n
  have hstart : isGap c = false ∧ c ≠ '\ufeff' := by
    rcases hc with rfl | hdigit
    · decide
    · exact ⟨isGap_of_startsValue (by simp [startsValue, hdigit]), by rintro rfl; simp at hdigit⟩
  have hread : readValue digitLimit _ _ = _ :=
    readValue_writeInt n (2 * (c :: cs).length + 1) .nil
  rw [List.append_nil, if_neg (by simp [hdigits]), hwrite] at hread
  simp only [load, parseWithin, String.toList_ofList, hwrite, skipGap_cons hstart.1, hread]
  split
  · next heq => exact absurd (List.cons.inj heq).1 hstart.2
  · rfl

end DartModels.Json
