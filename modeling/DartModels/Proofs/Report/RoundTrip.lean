import DartModels.Proofs.Json.RoundTrip
import DartModels.Report.Basic
import Mathlib.Algebra.GroupWithZero.Nat
import Mathlib.Data.List.Nodup

namespace DartModels

/-- A diagnostic of which a text keeps all: no number in its subject and its context has a
    fraction or more digits than a limit allows. -/
structure Diagnostic.IsExact (limit : Option Nat) (diagnostic : Diagnostic) : Prop where
  subject : Json.Exact limit diagnostic.subject
  context : Json.Exact limit (.object diagnostic.context)

variable {limit : Option Nat}

theorem Diagnostic.IsExact.toMembers {diagnostic : Diagnostic} (h : diagnostic.IsExact limit) :
    Json.Exact limit (.object diagnostic.toMembers) := by
  apply Json.Exact.object
  · simp [Json.names, Diagnostic.toMembers]
  · simp only [Diagnostic.toMembers, List.forall_mem_cons]
    exact ⟨.text _, .text _, h.subject, .text _, h.context, by simp⟩

namespace Report

/-- The codes of diagnostics, each where it comes first. -/
def codes (diagnostics : List Diagnostic) : List String :=
  (diagnostics.map (·.code)).eraseDups

theorem mem_codes_iff {diagnostics : List Diagnostic} {code : String} :
    code ∈ codes diagnostics ↔ ∃ diagnostic ∈ diagnostics, diagnostic.code = code := by
  rw [codes, List.mem_eraseDups, List.mem_map]

theorem codes_concat (diagnostics : List Diagnostic) (diagnostic : Diagnostic) :
    codes (diagnostics ++ [diagnostic]) =
      if diagnostic.code ∈ codes diagnostics then codes diagnostics
      else codes diagnostics ++ [diagnostic.code] := by
  rw [codes, List.map_append, List.map_singleton, List.eraseDups_append, ← codes]
  split
  · next hmem => simp [List.removeAll, mem_codes_iff.mp hmem]
  · next hnew =>
    rw [mem_codes_iff] at hnew
    simp [List.removeAll, hnew, List.eraseDups_cons]

theorem nodup_codes (diagnostics : List Diagnostic) : (codes diagnostics).Nodup := by
  induction diagnostics using List.reverseRecOn with
  | nil => exact List.nodup_nil
  | append_singleton diagnostics diagnostic ih =>
    rw [codes_concat]
    split
    · exact ih
    · next hnew => simpa using List.Nodup.concat hnew ih

/-- Counting a code changes the number of that code only. -/
theorem countOne_of_mem {code : String} {codes : List String} (hcodes : codes.Nodup)
    (hmem : code ∈ codes) (number : String → Nat) :
    countOne code (codes.map fun code => (code, number code)) =
      codes.map fun other => (other, if other = code then number other + 1 else number other) := by
  induction codes with
  | nil => cases hmem
  | cons first codes ih =>
    rw [List.nodup_cons] at hcodes
    rw [List.map_cons, countOne, List.map_cons]
    by_cases hfirst : first = code
    · subst hfirst
      rw [if_pos rfl, if_pos rfl]
      congr 1
      apply List.map_congr_left
      intro other hother
      rw [if_neg (ne_of_mem_of_not_mem hother hcodes.1)]
    · rw [if_neg hfirst, if_neg hfirst, ih hcodes.2 (List.mem_of_ne_of_mem (Ne.symm hfirst) hmem)]

theorem countOne_of_notMem {code : String} {counts : List (String × Nat)}
    (hnew : code ∉ counts.map Prod.fst) : countOne code counts = counts ++ [(code, 1)] := by
  induction counts with
  | nil => rfl
  | cons count counts ih =>
    rw [List.map_cons, List.mem_cons, not_or] at hnew
    rw [countOne, if_neg (Ne.symm hnew.1), ih hnew.2, List.cons_append]

theorem sum_countOne (code : String) (counts : List (String × Nat)) :
    ((countOne code counts).map Prod.snd).sum = (counts.map Prod.snd).sum + 1 := by
  induction counts with
  | nil => rfl
  | cons count counts ih =>
    rw [countOne]
    split
    · simp only [List.map_cons, List.sum_cons]
      omega
    · simp only [List.map_cons, List.sum_cons, ih]
      omega

theorem counts_concat (diagnostics : List Diagnostic) (diagnostic : Diagnostic) :
    counts (diagnostics ++ [diagnostic]) = countOne diagnostic.code (counts diagnostics) := by
  simp [counts]

theorem sum_counts (diagnostics : List Diagnostic) :
    ((counts diagnostics).map Prod.snd).sum = diagnostics.length := by
  induction diagnostics using List.reverseRecOn with
  | nil => rfl
  | append_singleton diagnostics diagnostic ih =>
    rw [counts_concat, sum_countOne, ih, List.length_append, List.length_singleton]

theorem length_ofCode_concat (diagnostics : List Diagnostic) (diagnostic : Diagnostic)
    (code : String) :
    (ofCode (diagnostics ++ [diagnostic]) code).length =
      if code = diagnostic.code then (ofCode diagnostics code).length + 1
      else (ofCode diagnostics code).length := by
  rw [ofCode, List.filter_append, List.length_append, ← ofCode]
  split
  · next h => simp [h]
  · next h => simp [Ne.symm h]

theorem length_ofCode_of_new {diagnostics : List Diagnostic} {code : String}
    (hnew : code ∉ codes diagnostics) : (ofCode diagnostics code).length = 0 := by
  rw [List.length_eq_zero_iff, ofCode, List.filter_eq_nil_iff]
  intro diagnostic hdiagnostic
  have hne : diagnostic.code ≠ code := fun h => hnew (mem_codes_iff.mpr ⟨_, hdiagnostic, h⟩)
  simpa using hne

/-- Each code is counted once, in the order in which codes come first, and its number is that of
    the diagnostics that have it. -/
theorem counts_eq (diagnostics : List Diagnostic) :
    counts diagnostics =
      (codes diagnostics).map fun code => (code, (ofCode diagnostics code).length) := by
  induction diagnostics using List.reverseRecOn with
  | nil => rfl
  | append_singleton diagnostics diagnostic ih =>
    rw [counts_concat, ih, codes_concat]
    simp only [length_ofCode_concat]
    split
    · next hmem => exact countOne_of_mem (nodup_codes diagnostics) hmem _
    · next hnew =>
      rw [countOne_of_notMem (by simpa using hnew), List.map_append, List.map_singleton,
        if_pos rfl, length_ofCode_of_new hnew]
      congr 1
      apply List.map_congr_left
      intro code hcode
      rw [if_neg (ne_of_mem_of_not_mem hcode hnew)]

theorem exact_toJson {diagnostics : List Diagnostic}
    (hexact : ∀ diagnostic ∈ diagnostics, diagnostic.IsExact limit)
    (hnumber : Json.hasFewDigits limit (.int diagnostics.length) = true) :
    Json.Exact limit (toJson diagnostics) := by
  apply Json.Exact.object
  · simp [Json.names]
  · simp only [List.forall_mem_cons]
    refine ⟨.int _ hnumber, ?_, ?_, by simp⟩
    · apply Json.Exact.object
      · rw [counts_eq]
        simpa [Json.names, Function.comp_def] using nodup_codes diagnostics
      · intro member hmember
        rw [counts_eq, List.map_map] at hmember
        obtain ⟨code, -, rfl⟩ := List.mem_map.mp hmember
        exact .int _ (Json.hasFewDigits_of_le (List.length_filter_le _ _) hnumber)
    · apply Json.Exact.array
      intro item hitem
      obtain ⟨diagnostic, hdiagnostic, rfl⟩ := List.mem_map.mp hitem
      exact (hexact diagnostic hdiagnostic).toMembers

/-- A report for programs tells everything, in any layout: reading it gives the members of every
    diagnostic in order, and the number of diagnostics of each code, codes in the order in which
    they come first. These numbers add up to that of all diagnostics. A reader that allows no more
    than some digits gives the same, unless it does not allow for the number of all diagnostics. -/
theorem parse_json {diagnostics : List Diagnostic}
    (hexact : ∀ diagnostic ∈ diagnostics, diagnostic.IsExact none) (layout : Json.Layout) :
    Json.parse (json layout diagnostics) = .ok (.object [
        ("total", .int diagnostics.length),
        ("counts", .object ((codes diagnostics).map fun code =>
          (code, .int (ofCode diagnostics code).length))),
        ("diagnostics", .array (diagnostics.map fun diagnostic =>
          .object diagnostic.toMembers))]) ∧
      ((codes diagnostics).map fun code => (ofCode diagnostics code).length).sum =
        diagnostics.length ∧
      ∀ limit, (∀ diagnostic ∈ diagnostics, diagnostic.IsExact limit) →
        Json.hasFewDigits limit (.int diagnostics.length) = true →
          Json.parseWithin limit (json layout diagnostics) =
            Json.parse (json layout diagnostics) := by
  have hparse := (exact_toJson hexact rfl).parseWithin_print layout
  refine ⟨?_, ?_, fun limit hlimit hnumber => ?_⟩
  · rw [json, Json.parse, hparse, toJson, counts_eq, List.map_map]
    rfl
  · have hsum := sum_counts diagnostics
    rw [counts_eq, List.map_map] at hsum
    exact hsum
  · rw [json, Json.parse, hparse, (exact_toJson hlimit hnumber).parseWithin_print layout]

def unreadDiagnostics : List Diagnostic :=
  [{ code := "check_unreadable", message := "a \"quote\" and a\ttab", subject := .text "Größe 😀"
     context := [("check", .text "CHECK (x)"), ("at", .array [.int (-3), .bool true])] },
    { code := "type_not_found", message := "", subject := .null, level := .info },
    { code := "check_unreadable", message := "\\", subject := .object [("", .null)] }]

/-- One of two codes comes twice, and the lines are not indented. -/
theorem parse_json_unread :
    (∀ diagnostic ∈ unreadDiagnostics, diagnostic.IsExact none) ∧
    Json.parse (json (.indented 0) unreadDiagnostics) = .ok (.object [
      ("total", .int 3),
      ("counts", .object [("check_unreadable", .int 2), ("type_not_found", .int 1)]),
      ("diagnostics", .array (unreadDiagnostics.map fun diagnostic =>
        .object diagnostic.toMembers))]) := by
  have hexact : ∀ diagnostic ∈ unreadDiagnostics, diagnostic.IsExact none := by
    have hnone : Json.Exact none (.object []) := .object (by decide) (by simp)
    have hplace : Json.Exact none (.array [.int (-3), .bool true]) := by
      apply Json.Exact.array
      simpa using ⟨.int _ rfl, .bool _⟩
    have hcontext : Json.Exact none
        (.object [("check", .text "CHECK (x)"), ("at", .array [.int (-3), .bool true])]) := by
      apply Json.Exact.object
      · decide
      · simp [Json.Exact.text, hplace]
    have hsubject : Json.Exact none (.object [("", .null)]) := by
      apply Json.Exact.object
      · decide
      · simp [Json.Exact.null]
    simp only [unreadDiagnostics, List.forall_mem_cons]
    exact ⟨⟨.text _, hcontext⟩, ⟨.null, hnone⟩, ⟨hsubject, hnone⟩, by simp⟩
  have hcodes : codes unreadDiagnostics = ["check_unreadable", "type_not_found"] := by decide
  have hparse := (parse_json hexact (.indented 0)).1
  rw [hcodes] at hparse
  exact ⟨hexact, hparse⟩

end Report
end DartModels
