import DartModels.Graph.Reachable
import DartModels.Proofs.Outcome
import Mathlib.Data.List.Nodup
import Mathlib.Data.List.Perm.Subperm

namespace DartModels.Graph

variable {κ ε : Type}

/-- The nodes that steps lead to from a list of starts. Starts and targets that are no
    nodes do not count. -/
inductive Reached (nodes : List κ) (next : κ → List (Except ε κ)) (starts : List κ) : κ → Prop where
  | start {node : κ} (hstart : node ∈ starts) (hnode : node ∈ nodes) :
      Reached nodes next starts node
  | step {source target : κ} (hsource : Reached nodes next starts source)
      (hstep : .ok target ∈ next source) (htarget : target ∈ nodes) :
      Reached nodes next starts target

/-- What the search makes of a list of reached nodes: more of them, and all that the
    added ones lead to. -/
structure Grown (nodes : List κ) (next : κ → List (Except ε κ)) (starts reached after : List κ) :
    Prop where
  sub : reached ⊆ after
  nodup : after.Nodup
  sound : ∀ node ∈ after, Reached nodes next starts node
  closed : ∀ source ∈ after, source ∉ reached → ∀ target ∈ nodes, .ok target ∈ next source →
    target ∈ after

variable {nodes : List κ} {next : κ → List (Except ε κ)} {starts : List κ}

theorem Reached.mem {node : κ} (h : Reached nodes next starts node) : node ∈ nodes := by
  cases h with
  | start _ hnode => exact hnode
  | step _ _ htarget => exact htarget

theorem Grown.nil : Grown nodes next starts [] [] where
  sub := List.nil_subset _
  nodup := List.nodup_nil
  sound := by simp
  closed := by simp

theorem Grown.refl {reached after : List κ} (h : Grown nodes next starts reached after) :
    Grown nodes next starts after after where
  sub := List.Subset.refl _
  nodup := h.nodup
  sound := h.sound
  closed _ hmem hnew := absurd hmem hnew

theorem Grown.trans {reached middle after : List κ}
    (hfirst : Grown nodes next starts reached middle)
    (hsecond : Grown nodes next starts middle after) : Grown nodes next starts reached after where
  sub := List.Subset.trans hfirst.sub hsecond.sub
  nodup := hsecond.nodup
  sound := hsecond.sound
  closed source hsource hnew target htarget hstep := by
    by_cases hmiddle : source ∈ middle
    · exact hsecond.sub (hfirst.closed source hmiddle hnew target htarget hstep)
    · exact hsecond.closed source hsource hmiddle target htarget hstep

/-- A new node that is reached can be noted. -/
theorem Grown.concat {reached : List κ} {node : κ} (h : Grown nodes next starts reached reached)
    (hnode : Reached nodes next starts node) (hnew : node ∉ reached) :
    Grown nodes next starts (reached ++ [node]) (reached ++ [node]) where
  sub := List.Subset.refl _
  nodup := by simpa using List.Nodup.concat hnew h.nodup
  sound := by simpa [or_imp, forall_and] using ⟨h.sound, hnode⟩
  closed _ hmem hnew := absurd hmem hnew

/-- Once all that a noted node leads to is noted as well, it counts as added. -/
theorem Grown.of_concat {reached after : List κ} {node : κ}
    (h : Grown nodes next starts (reached ++ [node]) after)
    (hnext : ∀ target ∈ nodes, .ok target ∈ next node → target ∈ after) :
    Grown nodes next starts reached after where
  sub := List.Subset.trans (List.subset_append_left _ _) h.sub
  nodup := h.nodup
  sound := h.sound
  closed source hsource hnew := by
    by_cases hsame : source = node
    · exact hsame ▸ hnext
    · exact h.closed source hsource (by simp [hnew, hsame])

/-- No more nodes are reached than there are. This is why a depth above their number is
    never used up. -/
theorem Grown.length_le {reached after : List κ} (h : Grown nodes next starts reached after) :
    after.length ≤ nodes.length :=
  (h.nodup.subperm fun node hnode => (h.sound node hnode).mem).length_le

/-- The depth that suffices for a list of nodes suffices, one less, for a list that has
    one node more. -/
theorem Grown.depth_lt {reached after : List κ} {node : κ} {depth : Nat}
    (h : Grown nodes next starts (reached ++ [node]) after) (hnew : node ∉ reached)
    (hreached : reached.Nodup) (hdepth : nodes.length < depth + 1 + reached.length) :
    nodes.length < depth + after.length := by
  have hnodup : (reached ++ [node]).Nodup := by simpa using List.Nodup.concat hnew hreached
  have hlength := (hnodup.subperm h.sub).length_le
  rw [List.length_append, List.length_singleton] at hlength
  omega

variable [DecidableEq κ]

/-- Reaching a node adds it and all that it leads to. It fails only with the failure of
    a step from a node that is reached. The depth is sufficient as long as it makes up
    for the nodes that are not yet reached. -/
theorem reach_ends {depth : Nat} {reached : List κ} {node : κ}
    (hreached : Grown nodes next starts reached reached)
    (hnode : node ∈ nodes → Reached nodes next starts node)
    (hdepth : nodes.length < depth + reached.length) :
    Ends (fun after => Grown nodes next starts reached after ∧ (node ∈ nodes → node ∈ after))
      (fun failure => ∃ source, Reached nodes next starts source ∧ .error failure ∈ next source)
      (reach nodes next depth reached node) := by
  induction depth generalizing reached node with
  | zero =>
    have := hreached.length_le
    omega
  | succ depth ih =>
    rw [reach]
    split_ifs with hdone
    · exact ⟨hreached, fun hmem => hdone.resolve_right (not_not_intro hmem)⟩
    · obtain ⟨hnew, hmem⟩ := not_or.mp hdone
      have hsource := hnode (not_not.mp hmem)
      have hstart := hreached.concat hsource hnew
      refine (Ends.foldlM (fun done after => Grown nodes next starts (reached ++ [node]) after ∧
        ∀ target ∈ nodes, .ok target ∈ done → target ∈ after) ?_ ⟨hstart, by simp⟩).imp
        (fun after hafter => ?_) fun _ => id
      · intro done step state hstep hkeeps
        obtain ⟨hgrown, hall⟩ := hkeeps
        cases step with
        | error failure => exact ⟨node, hsource, hstep⟩
        | ok target =>
          have htarget : target ∈ nodes → Reached nodes next starts target := hsource.step hstep
          have hnext := ih hgrown.refl htarget (hgrown.depth_lt hnew hreached.nodup hdepth)
          refine hnext.imp (fun after hafter => ?_) fun _ => id
          obtain ⟨hmore, hadded⟩ := hafter
          refine ⟨hgrown.trans hmore, fun other hother hdone => ?_⟩
          rcases List.mem_append.mp hdone with hdone | hdone
          · exact hmore.sub (hall other hother hdone)
          · cases List.mem_singleton.mp hdone
            exact hadded hother
      · obtain ⟨hgrown, hall⟩ := hafter
        exact ⟨hgrown.of_concat hall, fun _ => hgrown.sub (by simp)⟩

/-- The search ends with each node that is reached from the starts once and with nothing
    else, or with the failure of a step from such a node. -/
theorem reachable_ends (nodes : List κ) (next : κ → List (Except ε κ)) (starts : List κ) :
    Ends (fun keys => keys.Nodup ∧ ∀ key, key ∈ keys ↔ Reached nodes next starts key)
      (fun failure => ∃ source, Reached nodes next starts source ∧ .error failure ∈ next source)
      (reachable nodes next starts) := by
  refine (Ends.foldlM (fun done after => Grown nodes next starts [] after ∧
    ∀ start ∈ done, start ∈ nodes → start ∈ after) ?_ ⟨.nil, by simp⟩).imp
    (fun keys hkeys => ?_) fun _ => id
  · intro done start state hstart hkeeps
    obtain ⟨hgrown, hall⟩ := hkeeps
    refine (reach_ends hgrown.refl (.start hstart) (by omega)).imp (fun after hafter => ?_)
      fun _ => id
    obtain ⟨hmore, hadded⟩ := hafter
    refine ⟨hgrown.trans hmore, fun other hother hmem => ?_⟩
    rcases List.mem_append.mp hother with hother | hother
    · exact hmore.sub (hall other hother hmem)
    · cases List.mem_singleton.mp hother
      exact hadded hmem
  · obtain ⟨hgrown, hall⟩ := hkeys
    refine ⟨hgrown.nodup, fun key => ⟨hgrown.sound key, fun hkey => ?_⟩⟩
    induction hkey with
    | start hstart hnode => exact hall _ hstart hnode
    | step _ hstep htarget ih => exact hgrown.closed _ ih (by simp) _ htarget hstep

/-- Any two depths that make up for the nodes that are not yet reached give the same
    outcome. -/
theorem reach_depth_irrelevant {depth other : Nat} {reached : List κ} {node : κ}
    (hreached : Grown nodes next starts reached reached)
    (hnode : node ∈ nodes → Reached nodes next starts node)
    (hdepth : nodes.length < depth + reached.length)
    (hother : nodes.length < other + reached.length) :
    reach nodes next depth reached node = reach nodes next other reached node := by
  have hlength := hreached.length_le
  induction depth generalizing other reached node with
  | zero => omega
  | succ depth ih =>
    obtain ⟨other, rfl⟩ : ∃ smaller, other = smaller + 1 := ⟨other - 1, by omega⟩
    rw [reach, reach]
    split_ifs with hdone
    · rfl
    · obtain ⟨hnew, hmem⟩ := not_or.mp hdone
      have hsource := hnode (not_not.mp hmem)
      refine foldlM_congr (Grown nodes next starts (reached ++ [node])) ?_
        (hreached.concat hsource hnew)
      intro state step hstep hgrown
      cases step with
      | error failure => exact ⟨rfl, trivial⟩
      | ok target =>
        have htarget : target ∈ nodes → Reached nodes next starts target := hsource.step hstep
        have hsuffices := hgrown.depth_lt hnew hreached.nodup hdepth
        refine ⟨ih hgrown.refl htarget hsuffices (hgrown.depth_lt hnew hreached.nodup hother)
          hgrown.length_le, ?_⟩
        exact (reach_ends hgrown.refl htarget hsuffices).imp
          (fun after hafter => hgrown.trans hafter.1) fun _ _ => trivial

/-- The search never reaches its depth: any greater one gives the same outcome. -/
theorem reachable_depth_irrelevant {depth : Nat} (hdepth : nodes.length < depth) :
    starts.foldlM (reach nodes next depth) [] = reachable nodes next starts := by
  refine foldlM_congr (Grown nodes next starts []) (fun state start hstart hgrown => ?_) .nil
  have hsuffices : nodes.length < depth + state.length := by omega
  refine ⟨reach_depth_irrelevant hgrown.refl (.start hstart) hsuffices (by omega), ?_⟩
  exact (reach_ends hgrown.refl (.start hstart) hsuffices).imp
    (fun after hafter => hgrown.trans hafter.1) fun _ _ => trivial

/-- The search looks at the nodes of a closed set only. Two graphs that agree on it are
    searched alike. -/
theorem reach_congr {others : List κ} {following : κ → List (Except ε κ)} {set : κ → Prop}
    (hnodes : ∀ node, set node → (node ∈ nodes ↔ node ∈ others))
    (hnext : ∀ node ∈ nodes, set node → next node = following node)
    (hclosed : ∀ node ∈ nodes, set node → ∀ target, .ok target ∈ next node → set target)
    (depth : Nat) (reached : List κ) {node : κ} (hnode : set node) :
    reach nodes next depth reached node = reach others following depth reached node := by
  induction depth generalizing reached node with
  | zero => rfl
  | succ depth ih =>
    rw [reach, reach]
    by_cases hmem : node ∈ nodes
    · have hother := (hnodes node hnode).mp hmem
      rw [← hnext node hmem hnode]
      simp only [hmem, hother]
      split_ifs with hdone
      · rfl
      · refine foldlM_congr (fun _ => True) (fun state step hstep _ => ⟨?_, .trivial _⟩) trivial
        cases step with
        | error failure => rfl
        | ok target => exact ih state (hclosed node hmem hnode target hstep)
    · have hother : node ∉ others := fun h => hmem ((hnodes node hnode).mpr h)
      rw [if_pos (.inr hmem), if_pos (.inr hother)]

theorem reachable_congr {others : List κ} {following : κ → List (Except ε κ)} {set : κ → Prop}
    (hnodes : ∀ node, set node → (node ∈ nodes ↔ node ∈ others))
    (hnext : ∀ node ∈ nodes, set node → next node = following node)
    (hclosed : ∀ node ∈ nodes, set node → ∀ target, .ok target ∈ next node → set target)
    (hstarts : ∀ start ∈ starts, set start) :
    reachable nodes next starts = reachable others following starts := by
  have hdepth : nodes.length < nodes.length + others.length + 1 := by omega
  have hother : others.length < nodes.length + others.length + 1 := by omega
  rw [← reachable_depth_irrelevant hdepth, ← reachable_depth_irrelevant hother]
  refine foldlM_congr (fun _ => True) (fun state start hstart _ => ⟨?_, .trivial _⟩) trivial
  exact reach_congr hnodes hnext hclosed _ state (hstarts start hstart)

end DartModels.Graph
