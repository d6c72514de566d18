import DartModels.Graph.Postorder
import DartModels.Proofs.Outcome
import Mathlib.Data.List.Perm.Subperm
import Mathlib.Logic.Relation

open Relation (TransGen)

namespace DartModels.Graph

variable {κ : Type} {graph : Graph κ}

/-- One node needs another in a single step. Successors that are no nodes do not
    count. -/
def Edge (graph : Graph κ) (source target : κ) : Prop :=
  source ∈ graph.nodes ∧ target ∈ graph.nodes ∧ target ∈ graph.next source

/-- Each element of a list stands behind all nodes that it leads to. -/
def InOrder (graph : Graph κ) (finished : List κ) : Prop :=
  ∀ before node after, finished = before ++ node :: after →
    ∀ target, graph.Edge node target → target ∈ before

theorem InOrder.nil : graph.InOrder [] := by
  intro before node after h
  simp at h

theorem InOrder.concat {finished : List κ} {node : κ} (horder : graph.InOrder finished)
    (hnode : ∀ target, graph.Edge node target → target ∈ finished) :
    graph.InOrder (finished ++ [node]) := by
  intro before other after heq target hedge
  rcases List.eq_nil_or_concat after with rfl | ⟨middle, last, rfl⟩
  · obtain ⟨rfl, hother⟩ := List.append_inj' heq rfl
    cases hother
    exact hnode target hedge
  · have hsplit : finished ++ [node] = (before ++ other :: middle) ++ [last] := by
      simpa using heq
    exact horder before other middle (List.append_inj' hsplit rfl).1 target hedge

theorem InOrder.pair_sublist {finished : List κ} {node target : κ}
    (horder : graph.InOrder finished) (hmem : node ∈ finished) (hedge : graph.Edge node target) :
    [target, node].Sublist finished := by
  obtain ⟨before, after, rfl⟩ := List.append_of_mem hmem
  have htarget := horder before node after rfl target hedge
  exact (List.singleton_sublist.mpr htarget).append (List.singleton_sublist.mpr (by simp))

/-- Along an edge the position in a list in order falls. -/
theorem InOrder.idxOf_lt [DecidableEq κ] {finished : List κ} {node target : κ}
    (horder : graph.InOrder finished) (hnodup : finished.Nodup) (hmem : node ∈ finished)
    (hedge : graph.Edge node target) : finished.idxOf target < finished.idxOf node := by
  obtain ⟨before, after, rfl⟩ := List.append_of_mem hmem
  have htarget := horder before node after rfl target hedge
  have hnode : node ∉ before := fun h => (List.nodup_append.mp hnodup).2.2 node h node (by simp) rfl
  rw [List.idxOf_append_of_mem htarget, List.idxOf_append_of_notMem hnode]
  exact Nat.lt_add_right _ (List.idxOf_lt_length_iff.mpr htarget)

/-- A list of all nodes that is in order leaves no room for a cycle. -/
theorem InOrder.acyclic [DecidableEq κ] {finished : List κ} (horder : graph.InOrder finished)
    (hnodup : finished.Nodup) (hall : graph.nodes ⊆ finished) (node : κ) :
    ¬ TransGen graph.Edge node node := by
  have hfalls : ∀ {source target}, TransGen graph.Edge source target →
      finished.idxOf target < finished.idxOf source := by
    intro source target hpath
    induction hpath with
    | single hedge => exact horder.idxOf_lt hnodup (hall hedge.1) hedge
    | tail _ hedge ih => exact Nat.lt_trans (horder.idxOf_lt hnodup (hall hedge.1) hedge) ih
  exact fun hcycle => Nat.lt_irrefl _ (hfalls hcycle)

/-- The way to a node that is looked at: nodes without repetition that all lead to
    it. -/
structure Path (graph : Graph κ) (path : List κ) (node : κ) : Prop where
  nodes : path ⊆ graph.nodes
  nodup : path.Nodup
  leads : node ∈ graph.nodes → ∀ earlier ∈ path, TransGen graph.Edge earlier node

theorem Path.nil (node : κ) : graph.Path [] node where
  nodes := List.nil_subset _
  nodup := List.nodup_nil
  leads _ _ h := by cases h

/-- A new node of a path extends the way to each of its successors. -/
theorem Path.cons {path : List κ} {node target : κ} (hpath : graph.Path path node)
    (hnode : node ∈ graph.nodes) (hnew : node ∉ path) (hnext : target ∈ graph.next node) :
    graph.Path (node :: path) target where
  nodes := List.cons_subset.mpr ⟨hnode, hpath.nodes⟩
  nodup := List.nodup_cons.mpr ⟨hnew, hpath.nodup⟩
  leads := by
    intro htarget earlier hearlier
    have hedge : graph.Edge node target := ⟨hnode, htarget, hnext⟩
    rcases List.mem_cons.mp hearlier with rfl | hearlier
    · exact .single hedge
    · exact .tail (hpath.leads hnode earlier hearlier) hedge

/-- No path is longer than the list of nodes. This is why a depth above their
    number is never used up. -/
theorem Path.length_le {path : List κ} {node : κ} (hpath : graph.Path path node) :
    path.length ≤ graph.nodes.length :=
  (hpath.nodup.subperm hpath.nodes).length_le

/-- What holds of the finished nodes while the nodes of a path are looked at. -/
structure Finished (graph : Graph κ) (path finished : List κ) : Prop where
  nodes : finished ⊆ graph.nodes
  nodup : finished.Nodup
  inOrder : graph.InOrder finished
  apart : ∀ node ∈ path, node ∉ finished

theorem Finished.nil (path : List κ) : graph.Finished path [] where
  nodes := List.nil_subset _
  nodup := List.nodup_nil
  inOrder := .nil
  apart _ _ h := by cases h

/-- The node at the end of a path can be finished once its successors are. -/
theorem Finished.concat {path finished : List κ} {node : κ}
    (hfinished : graph.Finished (node :: path) finished) (hnode : node ∈ graph.nodes)
    (hnew : node ∉ path) (hnext : ∀ target, graph.Edge node target → target ∈ finished) :
    graph.Finished path (finished ++ [node]) where
  nodes := List.append_subset.mpr ⟨hfinished.nodes, by simpa using hnode⟩
  nodup := by
    have hfresh := hfinished.apart node (by simp)
    simpa [List.nodup_append] using ⟨hfinished.nodup, fun x hx h => hfresh (h ▸ hx)⟩
  inOrder := hfinished.inOrder.concat hnext
  apart := by
    intro other hother hmem
    rcases List.mem_append.mp hmem with hmem | hmem
    · exact hfinished.apart other (List.mem_cons_of_mem _ hother) hmem
    · exact hnew (List.mem_singleton.mp hmem ▸ hother)

variable [DecidableEq κ]

/-- Finishing a node keeps all that holds of the finished nodes and adds the node to
    them. It fails only with a node that leads back to itself. The depth is sufficient
    as long as it makes up for the length of the path. -/
theorem finish_ends {depth : Nat} {path finished : List κ} {node : κ}
    (hpath : graph.Path path node) (hfinished : graph.Finished path finished)
    (hdepth : graph.nodes.length < depth + path.length) :
    Ends (fun after => finished ⊆ after ∧ graph.Finished path after ∧
        (node ∈ graph.nodes → node ∈ after))
      (fun key => TransGen graph.Edge key key) (graph.finish depth path finished node) := by
  induction depth generalizing path finished node with
  | zero =>
    have := hpath.length_le
    omega
  | succ depth ih =>
    rw [finish]
    split_ifs with hnode hlooked hdone
    · exact hpath.leads hnode node hlooked
    · exact ⟨List.Subset.refl _, hfinished, fun _ => hdone⟩
    · -- While the successors are finished the node itself belongs to the path.
      have hstart : graph.Finished (node :: path) finished :=
        { hfinished with apart := List.forall_mem_cons.mpr ⟨hdone, hfinished.apart⟩ }
      refine Ends.bind (Ends.foldlM (fun done after => finished ⊆ after ∧
        graph.Finished (node :: path) after ∧
        ∀ target ∈ done, target ∈ graph.nodes → target ∈ after) ?_
        ⟨List.Subset.refl _, hstart, by simp⟩) fun after hafter => ?_
      · intro done target state htarget hkeeps
        obtain ⟨hsub, hkept, hdone⟩ := hkeeps
        have hstep := ih (hpath.cons hnode hlooked htarget) hkept (by simp; omega)
        refine hstep.imp (fun after hafter => ?_) fun _ => id
        obtain ⟨hmore, hkept, hadded⟩ := hafter
        refine ⟨List.Subset.trans hsub hmore, hkept, fun other hother hnodes => ?_⟩
        rcases List.mem_append.mp hother with hother | hother
        · exact hmore (hdone other hother hnodes)
        · cases List.mem_singleton.mp hother
          exact hadded hnodes
      · obtain ⟨hsub, hkept, hnext⟩ := hafter
        refine ⟨List.Subset.trans hsub (List.subset_append_left _ _), ?_, fun _ => by simp⟩
        exact hkept.concat hnode hlooked fun target hedge => hnext target hedge.2.2 hedge.2.1
    · exact ⟨List.Subset.refl _, hfinished, fun h => absurd h hnode⟩

/-- The search from all nodes ends with each node once and in order, or with a node
    that leads back to itself. -/
theorem postorder_ends (graph : Graph κ) :
    Ends (fun keys => keys.Nodup ∧ (∀ key, key ∈ keys ↔ key ∈ graph.nodes) ∧ graph.InOrder keys)
      (fun key => TransGen graph.Edge key key) graph.postorder := by
  refine (Ends.foldlM (fun done after => graph.Finished [] after ∧ done ⊆ after) ?_
    ⟨.nil [], List.nil_subset _⟩).imp (fun keys hkeys => ?_) fun _ => id
  · intro done node state hnode hkeeps
    obtain ⟨hfinished, hdone⟩ := hkeeps
    refine (finish_ends (.nil node) hfinished (by simp)).imp (fun after hafter => ?_) fun _ => id
    obtain ⟨hmore, hkept, hadded⟩ := hafter
    refine ⟨hkept, List.append_subset.mpr ⟨List.Subset.trans hdone hmore, ?_⟩⟩
    simpa using hadded hnode
  · obtain ⟨hfinished, hall⟩ := hkeys
    exact ⟨hfinished.nodup, fun key => ⟨fun h => hfinished.nodes h, fun h => hall h⟩,
      hfinished.inOrder⟩

theorem postorder_isOk_iff (graph : Graph κ) :
    (∃ keys, graph.postorder = .ok keys) ↔ ∀ node, ¬ TransGen graph.Edge node node := by
  cases hresult : graph.postorder with
  | error key =>
    constructor
    · rintro ⟨keys, h⟩
      cases h
    · intro hacyclic
      exact absurd (graph.postorder_ends.of_eq_error hresult) (hacyclic key)
  | ok keys =>
    obtain ⟨hnodup, hall, horder⟩ := graph.postorder_ends.of_eq_ok hresult
    exact ⟨fun _ => horder.acyclic hnodup fun key h => (hall key).mpr h, fun _ => ⟨keys, rfl⟩⟩

/-- A node that is finished, or that is none of the graph, changes nothing. -/
theorem finish_of_mem {depth : Nat} {path finished : List κ} {node : κ}
    (hdone : node ∈ graph.nodes → node ∈ finished ∧ node ∉ path) :
    graph.finish depth path finished node = .ok finished := by
  cases depth with
  | zero => rfl
  | succ depth =>
    rw [finish]
    split_ifs with hnode hlooked hmem
    · exact absurd hlooked (hdone hnode).2
    · rfl
    · exact absurd (hdone hnode).1 hmem
    · rfl

/-- A new node whose successors are finished comes next. -/
theorem finish_of_next {depth : Nat} {finished : List κ} {node : κ} (hnode : node ∈ graph.nodes)
    (hnew : node ∉ finished) (hnext : ∀ target, graph.Edge node target → target ∈ finished) :
    graph.finish (depth + 1) [] finished node = .ok (finished ++ [node]) := by
  have hsuccessors : ∀ targets, targets ⊆ graph.next node →
      targets.foldlM (graph.finish depth [node]) finished = .ok finished := by
    intro targets hsub
    induction targets with
    | nil => rfl
    | cons target rest ih =>
      obtain ⟨htarget, hrest⟩ := List.cons_subset.mp hsub
      have hdone : graph.finish depth [node] finished target = .ok finished := by
        refine finish_of_mem fun hnodes => ?_
        have hmem := hnext target ⟨hnode, hnodes, htarget⟩
        refine ⟨hmem, fun hself => hnew ?_⟩
        rwa [← List.mem_singleton.mp hself]
      rw [List.foldlM_cons, hdone, ok_bind, ih hrest]
  rw [finish, if_neg (not_not.mpr hnode), if_neg List.not_mem_nil, if_neg hnew,
    hsuccessors _ (List.Subset.refl _), ok_bind]

/-- Where the nodes are in order already, the search goes through them one by one. -/
theorem postorder_of_inOrder (hnodup : graph.nodes.Nodup) (horder : graph.InOrder graph.nodes) :
    graph.postorder = .ok graph.nodes := by
  -- At any time the finished nodes are those that the search has gone through.
  suffices h : ∀ rest done, done ++ rest = graph.nodes →
      rest.foldlM (graph.finish (graph.nodes.length + 1) []) done = .ok graph.nodes from
    h graph.nodes [] rfl
  intro rest
  induction rest with
  | nil =>
    intro done hnodes
    rw [← hnodes, List.append_nil]
    rfl
  | cons node rest ih =>
    intro done hnodes
    have hnode : node ∈ graph.nodes := by
      rw [← hnodes]
      simp
    have hnew : node ∉ done := fun hmem => by
      rw [← hnodes] at hnodup
      exact (List.nodup_append.mp hnodup).2.2 node hmem node List.mem_cons_self rfl
    have hnext := horder done node rest hnodes.symm
    rw [List.foldlM_cons, finish_of_next hnode hnew hnext, ok_bind]
    exact ih (done ++ [node]) (by rw [← hnodes, List.append_assoc, List.singleton_append])

/-- Any two depths that make up for the length of the path give the same outcome. -/
theorem finish_depth_irrelevant {depth other : Nat} {path finished : List κ} {node : κ}
    (hpath : graph.Path path node) (hdepth : graph.nodes.length < depth + path.length)
    (hother : graph.nodes.length < other + path.length) :
    graph.finish depth path finished node = graph.finish other path finished node := by
  have hlength := hpath.length_le
  induction depth generalizing other path finished node with
  | zero => omega
  | succ depth ih =>
    obtain ⟨other, rfl⟩ : ∃ smaller, other = smaller + 1 := ⟨other - 1, by omega⟩
    rw [finish, finish]
    split_ifs with hnode hlooked hdone
    · rfl
    · rfl
    · refine congrArg (· >>= _) (foldlM_congr (fun _ => True)
        (fun state target htarget _ => ⟨?_, .trivial _⟩) trivial)
      have hnext := hpath.cons hnode hlooked htarget
      exact ih hnext (by simp; omega) (by simp; omega) hnext.length_le
    · rfl

/-- The search never reaches its depth: any greater one gives the same outcome. -/
theorem postorder_depth_irrelevant {depth : Nat} (hdepth : graph.nodes.length < depth) :
    graph.nodes.foldlM (graph.finish depth []) [] = graph.postorder :=
  foldlM_congr (fun _ => True) (fun _ node _ _ =>
    ⟨finish_depth_irrelevant (.nil node) (by simpa using hdepth) (by simp), .trivial _⟩) trivial

end DartModels.Graph
