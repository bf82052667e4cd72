import ArtifactResolution.Proofs.ArtifactCollector.DependencyOrder
import ArtifactResolution.Proofs.ArtifactCollector.Told
import Mathlib.Data.List.Perm.Subperm

namespace ArtifactResolution
set_option autoImplicit false

open Callback

theorem exists_perm_append_of_subset {α : Type} {l l' : List α} (h : l.Nodup) (hsubset : l ⊆ l') :
    ∃ rest, l'.Perm (l ++ rest) := by
  obtain ⟨l₁, hperm, hsublist⟩ := List.subperm_of_subset h hsubset
  obtain ⟨rest, hrest⟩ := hsublist.exists_perm_append
  exact ⟨rest, hrest.trans (hperm.append_right rest)⟩

variable {graph : Graph} {root : NodeId} {callbacks : List Callback}

/-- Sets are delivered only for nodes of the graph that are reached from the root. -/
def Callback.DeliverReachable (graph : Graph) (root : NodeId) (callbacks : List Callback) : Prop :=
  ∀ d ∈ deliveries callbacks, graph.contains d.1 ∧ graph.Reachable root d.1

theorem Callback.DeliverReachable.mem_sort (h : DeliverReachable graph root callbacks)
    {d : NodeId × ArtifactSet} (hmem : d ∈ deliveries callbacks) (order : SortOrder) :
    d.1 ∈ graph.sort root order := by
  obtain ⟨hnode, hreach⟩ := h d hmem
  exact Graph.mem_sort_iff.2 ⟨hreach.contains_root hnode, hreach⟩

namespace ArtifactCollector

theorem started_receive_start (buildProjects : Bool) (order : SortOrder) (graph : Graph)
    (root : NodeId) :
    (Visitor.receive ({ buildProjects, order } : ArtifactCollector)
      (.start graph root)).1.started := by
  cases order <;> rfl

theorem admitsNode_of_mem_sort (buildProjects : Bool) {order : SortOrder} {node : NodeId}
    (hnode : node ∈ graph.sort root order) :
    (Visitor.receive ({ buildProjects, order } : ArtifactCollector)
      (.start graph root)).1.admitsNode node := by
  have horder : (Visitor.receive ({ buildProjects, order } : ArtifactCollector)
      (.start graph root)).1.order = order := order_run _ [.start graph root]
  rw [admitsNode, horder, started_receive_start]
  cases hdefault : order.isDefault with
  | true => rfl
  | false =>
    have hkeys := nodes_of_start buildProjects hdefault graph root [] ∅
    rw [nodes_complete] at hkeys
    exact Table.mem_keys_iff.1 (hkeys ▸ hnode)

/-- Once started, a collection that is told about reached nodes refuses only to be started again. -/
theorem accepted_of_reachable (h : DeliverReachable graph root callbacks) (buildProjects : Bool)
    (order : SortOrder) :
    Visitor.accepted ({ buildProjects, order } : ArtifactCollector)
      (.start graph root :: callbacks) =
      .start graph root :: callbacks.filter (·.start?.isNone) := by
  rw [accepted_start, accepted_eq_filter (started_receive_start buildProjects order graph root)]
  congr 1
  apply List.filter_congr
  intro callback hmem
  cases hdelivery : callback.delivery? with
  | some d =>
    rw [admits_of_delivery hdelivery, start?_of_delivery hdelivery]
    exact admitsNode_of_mem_sort buildProjects (h.mem_sort (mem_deliveries hmem hdelivery) order)
  | none =>
    cases callback with
    | start => exact congrArg not (started_receive_start buildProjects order graph root)
    | visitNode => cases hdelivery
    | visitFile => cases hdelivery
    | finish => rfl

theorem told_of_reachable (h : DeliverReachable graph root callbacks) (buildProjects : Bool)
    (order : SortOrder) :
    (Visitor.run ({ buildProjects, order } : ArtifactCollector)
      (.start graph root :: callbacks)).1.Told
        (.start graph root :: callbacks.filter (·.start?.isNone)) := by
  rw [← accepted_of_reachable h buildProjects order]
  exact Told.of_run buildProjects order _

theorem nodes_default_subset (h : DeliverReachable graph root callbacks) (buildProjects : Bool)
    (s : VariantStore) :
    ((Visitor.run ({ buildProjects, order := .default } : ArtifactCollector)
      (.start graph root :: callbacks)).1.complete s).nodes ⊆ graph.sort root .dependencyFirst := by
  intro node hnode
  rw [nodes_complete, (told_of_reachable h buildProjects .default).collected.keys_eq,
    order_run] at hnode
  obtain ⟨d, hd, rfl⟩ := List.mem_map.1 (List.mem_eraseDups.1 hnode)
  have hsubset : callbacks.filter (·.start?.isNone) ⊆ callbacks := List.filter_subset_self _
  exact h.mem_sort (deliveries_subset hsubset hd) .dependencyFirst

/-- Three collections that differ only in their order are started on one graph and told the same
about nodes that are reached in it. Then their results hold the same sets for every node and under
every identity and the same sets to be built, and what is selected from them is the same for every
node, and altogether the same up to the order. With consumers first the nodes stand in the exact
reverse of their order with dependencies first; either way they are the nodes of the default order
and others with empty groups. -/
theorem order_arranges_only (hvisits : DeliverReachable graph root callbacks)
    (buildProjects : Bool) (s s' : VariantStore) (filter : ComponentFilter)
    (selector : VariantSelector) :
    let results (order : SortOrder) := (Visitor.run
      ({ buildProjects, order } : ArtifactCollector) (.start graph root :: callbacks)).1.complete s
    let selection (order : SortOrder) := (results order).select s' filter selector
    (∀ order order',
      (∀ node, (results order).setIds node = (results order').setIds node) ∧
      (∀ id, (results order).artifactSet id = (results order').artifactSet id) ∧
      (results order).buildableIds = (results order').buildableIds ∧
      (∀ node, (selection order).artifactsFor node = (selection order').artifactsFor node) ∧
      (selection order).artifacts.toList.Perm (selection order').artifacts.toList ∧
      (selection order).buildDependencies.toList.Perm
        (selection order').buildDependencies.toList) ∧
    (results .consumerFirst).nodes = (results .dependencyFirst).nodes.reverse ∧
    ∃ idle, (∀ node ∈ idle, ∀ order, (results order).setIds node = []) ∧
      (results .dependencyFirst).nodes.Perm ((results .default).nodes ++ idle) ∧
      (results .consumerFirst).nodes.Perm ((results .default).nodes ++ idle) := by
  intro results selection
  have htold := told_of_reachable hvisits buildProjects
  have hids (order order' : SortOrder) (node : NodeId) :
      (results order).setIds node = (results order').setIds node :=
    ((htold order).collected.setIds_eq s node).trans
      ((htold order').collected.setIds_eq s node).symm
  have hprojects (order : SortOrder) := (settings_run
    ({ buildProjects, order } : ArtifactCollector) (.start graph root :: callbacks)).1
  have hbuildable (order order' : SortOrder) :
      (results order).buildableIds = (results order').buildableIds := by
    have hmarked := (htold order).marked_eq
    rw [hprojects order, ← hprojects order'] at hmarked
    exact hmarked.trans (htold order').marked_eq.symm
  have hsame (order order' : SortOrder) : (results order).SameContent (results order') :=
    (htold order).sameContent (htold order') ((hprojects order).trans (hprojects order').symm)
      (.refl _) rfl s
  have hnodes : (results .dependencyFirst).nodes = graph.sort root .dependencyFirst :=
    nodes_of_start buildProjects rfl graph root callbacks s
  have hreverse : (results .consumerFirst).nodes = (results .dependencyFirst).nodes.reverse := by
    rw [hnodes, ← Graph.sort_consumerFirst]
    exact nodes_of_start buildProjects rfl graph root callbacks s
  obtain ⟨idle, hidle⟩ := exists_perm_append_of_subset (Table.nodup_keys _)
    (nodes_default_subset hvisits buildProjects s)
  rw [← hnodes] at hidle
  refine ⟨fun order order' => ⟨hids order order', (hsame order order').artifactSet_eq,
    hbuildable order order', fun node => ?_, (hsame order order').artifacts_perm s' filter selector,
    (hsame order order').buildDependencies_perm s' filter selector⟩, hreverse, idle, ?_, hidle, ?_⟩
  · rw [ArtifactResults.artifactsFor_select, ArtifactResults.artifactsFor_select,
      hids order order' node]
    simp only [(hsame order order').artifactSet_eq]
  · intro node hnode order
    -- The nodes of a result are distinct, so a node that comes on top is no default node.
    have hnodup := hidle.nodup_iff.1 (Table.nodup_keys _)
    have hnew : node ∉ (results .default).nodes := fun hold =>
      List.disjoint_of_nodup_append hnodup hold hnode
    rw [hids order .default node]
    exact (results .default).setIds_of_notMem hnew
  · rw [hreverse]
    exact (List.reverse_perm _).trans hidle

theorem deliverReachable_mesh : DeliverReachable mesh ⟨1⟩ meshVisits := by
  have hreach : mesh.Reachable ⟨1⟩ ⟨2⟩ := .single adj_mesh.1
  have htargets : ∀ d ∈ deliveries meshVisits, d.1 = ⟨2⟩ ∨ d.1 = ⟨3⟩ := by decide
  intro d hd
  rcases htargets d hd with hid | hid
  · rw [hid]
    exact ⟨by decide, hreach⟩
  · rw [hid]
    exact ⟨by decide, hreach.tail adj_mesh.2⟩

theorem order_arranges_only_mesh :
    let results (order : SortOrder) := (Visitor.run
      ({ buildProjects := true, order } : ArtifactCollector)
      (.start mesh ⟨1⟩ :: meshVisits)).1.complete meshStore
    let selection (order : SortOrder) := (results order).select meshStore .acceptAll .first
    DeliverReachable mesh ⟨1⟩ meshVisits ∧
    (results .consumerFirst).nodes = (results .dependencyFirst).nodes.reverse ∧
    (selection .default).artifactsFor ⟨2⟩ = (selection .consumerFirst).artifactsFor ⟨2⟩ ∧
    (selection .default).buildDependencies.toList.Perm
      (selection .consumerFirst).buildDependencies.toList ∧
    ((selection .consumerFirst).artifactsFor ⟨2⟩).toList.length = 2 ∧
    (selection .consumerFirst).buildDependencies.toList.length = 3 := by
  intro results selection
  obtain ⟨hsame, hreverse, _⟩ :=
    order_arranges_only deliverReachable_mesh true meshStore meshStore .acceptAll .first
  obtain ⟨_, _, _, hnode, _, hbuilt⟩ := hsame .default .consumerFirst
  exact ⟨deliverReachable_mesh, hreverse, hnode ⟨2⟩, hbuilt, by decide +kernel,
    by decide +kernel⟩

end ArtifactCollector

end ArtifactResolution
