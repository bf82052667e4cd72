import ArtifactResolution.Proofs.ArtifactCollector.Collected
import ArtifactResolution.Proofs.Selection.Listing

namespace ArtifactResolution
set_option autoImplicit false

open Callback

/-- The list has a block for each node, and the block of the first node stands before the block of
the second. -/
def BlockPrecedes {α : Type} (block : NodeId → List α) (nodes : List NodeId) (first second : NodeId)
    (l : List α) : Prop :=
  ∃ before between after, nodes = before ++ first :: between ++ second :: after ∧
    l = before.flatMap block ++ block first ++ between.flatMap block ++ block second ++
      after.flatMap block

theorem blockPrecedes_flatMap {α : Type} (block : NodeId → List α) {nodes : List NodeId}
    {first second : NodeId}
    (h : ∃ before between after, nodes = before ++ first :: between ++ second :: after) :
    BlockPrecedes block nodes first second (nodes.flatMap block) := by
  obtain ⟨before, between, after, rfl⟩ := h
  exact ⟨before, between, after, rfl, by simp⟩

namespace Callback
variable {cs cs' : List Callback} {node node' : NodeId} {id : ArtifactSetId}

/-- No identity is delivered for two nodes. -/
def OneNodeEach (cs : List Callback) : Prop :=
  ∀ d ∈ deliveries cs, ∀ d' ∈ deliveries cs, d.2.id?.isSome → d.2.id? = d'.2.id? → d.1 = d'.1

instance (cs : List Callback) : Decidable (OneNodeEach cs) :=
  inferInstanceAs (Decidable (∀ d ∈ deliveries cs, ∀ d' ∈ deliveries cs,
    d.2.id?.isSome → d.2.id? = d'.2.id? → d.1 = d'.1))

theorem deliveries_subset (h : cs ⊆ cs') : deliveries cs ⊆ deliveries cs' := by
  intro d hd
  obtain ⟨callback, hmem, hdelivery⟩ := List.mem_filterMap.1 hd
  exact mem_deliveries (h hmem) hdelivery

theorem OneNodeEach.mono (h : OneNodeEach cs') (hsubset : cs ⊆ cs') : OneNodeEach cs :=
  fun d hd d' hd' => h d (deliveries_subset hsubset hd) d' (deliveries_subset hsubset hd')

theorem OneNodeEach.eq_of_mem (h : OneNodeEach cs) (hid : id ∈ idsFor node cs)
    (hid' : id ∈ idsFor node' cs) : node = node' := by
  obtain ⟨set, hmem, hset⟩ := mem_idsFor_iff.1 hid
  obtain ⟨set', hmem', hset'⟩ := mem_idsFor_iff.1 hid'
  exact h (node, set) hmem (node', set') hmem' (by simp [hset]) (hset.trans hset'.symm)

end Callback

namespace ArtifactResults
variable (r : ArtifactResults)

def builtFor (s : VariantStore) (filter : ComponentFilter) (selector : VariantSelector)
    (node : NodeId) : List ResolvedArtifact :=
  ((r.setIds node).filter r.isBuildable).flatMap fun id =>
    ((r.artifactSet id).select s filter selector).toList

theorem toList_buildDependencies_of_nodup (h : r.groupedIds.Nodup) (s : VariantStore)
    (filter : ComponentFilter) (selector : VariantSelector) :
    (r.select s filter selector).buildDependencies.toList =
      r.nodes.flatMap (r.builtFor s filter selector) := by
  rw [toList_buildDependencies, eraseDups_of_nodup (h.filter _), groupedIds_eq_flatMap,
    List.filter_flatMap, List.flatMap_assoc]
  rfl

end ArtifactResults

namespace ArtifactCollector
variable {c : ArtifactCollector} {done : List Callback}

theorem Collected.nodup_groupedIds (hc : c.Collected done) (hone : OneNodeEach done)
    (s : VariantStore) : (c.complete s).groupedIds.Nodup := by
  have hids (node : NodeId) : (c.complete s).setIds node = (idsFor node done).eraseDups :=
    hc.setIds_eq s node
  have hnodes : (c.complete s).nodes.Nodup := Table.nodup_keys _
  rw [ArtifactResults.groupedIds_eq_flatMap, List.nodup_flatMap]
  constructor
  · intro node _
    rw [setIds_complete]
    exact Table.nodup_keys _
  · apply hnodes.imp
    intro node node' hne id hid hid'
    rw [hids, List.mem_eraseDups] at hid hid'
    exact hne (hone.eq_of_mem hid hid')

theorem accepted_start (buildProjects : Bool) (order : SortOrder) (graph : Graph) (root : NodeId)
    (visits : List Callback) :
    Visitor.accepted ({ buildProjects, order } : ArtifactCollector) (.start graph root :: visits) =
      .start graph root :: Visitor.accepted (Visitor.receive
        ({ buildProjects, order } : ArtifactCollector) (.start graph root)).1 visits := by
  have hok : (Visitor.receive ({ buildProjects, order } : ArtifactCollector)
      (.start graph root)).2.isOk := by
    cases order <;> rfl
  have happend := Visitor.accepted_append ({ buildProjects, order } : ArtifactCollector)
    [.start graph root] visits
  rwa [Visitor.accepted_singleton, if_pos hok] at happend

theorem nodes_of_start (buildProjects : Bool) {order : SortOrder} (horder : order.isDefault = false)
    (graph : Graph) (root : NodeId) (visits : List Callback) (s : VariantStore) :
    ((Visitor.run ({ buildProjects, order } : ArtifactCollector)
      (.start graph root :: visits)).1.complete s).nodes = graph.sort root order := by
  have hc := Collected.run buildProjects order (.start graph root :: visits)
  rw [nodes_complete, hc.keys_eq, order_run, SortOrder.nodes, horder, accepted_start]
  rfl

/-- A collection is started on a graph, and no identity is delivered for two nodes. Then, whatever is
visited and selected, the artifacts of a node stand behind those of each node it leads to that does
not lead back to it, among all artifacts and among those that must be built; when consumers come
first they stand before them. -/
theorem select_dependency_order {graph : Graph} {root a b : NodeId} {buildProjects : Bool}
    {order : SortOrder} {visits : List Callback}
    (hone : OneNodeEach (Visitor.accepted ({ buildProjects, order } : ArtifactCollector)
      (.start graph root :: visits)))
    (ha : graph.Reachable root a) (hab : graph.Adj a b) (hback : ¬graph.Reachable b a)
    (s s' : VariantStore) (filter : ComponentFilter) (selector : VariantSelector) :
    let fresh : ArtifactCollector := { buildProjects, order }
    let results := (Visitor.run fresh (.start graph root :: visits)).1.complete s
    let selection := results.select s' filter selector
    let artifactsOf (node : NodeId) := (selection.artifactsFor node).toList
    let builtOf := results.builtFor s' filter selector
    (order = .dependencyFirst →
      BlockPrecedes artifactsOf results.nodes b a selection.artifacts.toList ∧
      BlockPrecedes builtOf results.nodes b a selection.buildDependencies.toList) ∧
    (order = .consumerFirst →
      BlockPrecedes artifactsOf results.nodes a b selection.artifacts.toList ∧
      BlockPrecedes builtOf results.nodes a b selection.buildDependencies.toList) := by
  intro fresh results selection artifactsOf builtOf
  have hroot : graph.contains root := ha.contains_root hab.contains_left
  have hsorted : a ∈ graph.sort root .dependencyFirst := Graph.mem_sort_iff.2 ⟨hroot, ha⟩
  obtain ⟨before, between, after, hsplit⟩ := Graph.exists_split_of_adj hsorted hab hback
  have hartifacts : selection.artifacts.toList = results.nodes.flatMap artifactsOf :=
    results.toList_artifacts s' filter selector
  have hbuilt : selection.buildDependencies.toList = results.nodes.flatMap builtOf := by
    have hc := Collected.run buildProjects order (.start graph root :: visits)
    exact results.toList_buildDependencies_of_nodup (hc.nodup_groupedIds hone s) s' filter selector
  rw [hartifacts, hbuilt]
  constructor
  · rintro rfl
    have hnodes : results.nodes = before ++ b :: between ++ a :: after :=
      (nodes_of_start buildProjects rfl graph root visits s).trans hsplit
    exact ⟨blockPrecedes_flatMap _ ⟨before, between, after, hnodes⟩,
      blockPrecedes_flatMap _ ⟨before, between, after, hnodes⟩⟩
  · rintro rfl
    have hreverse : graph.sort root .consumerFirst =
        after.reverse ++ a :: between.reverse ++ b :: before.reverse := by
      rw [Graph.sort_consumerFirst, hsplit]
      simp
    have hnodes : results.nodes = after.reverse ++ a :: between.reverse ++ b :: before.reverse :=
      (nodes_of_start buildProjects rfl graph root visits s).trans hreverse
    exact ⟨blockPrecedes_flatMap _ ⟨_, _, _, hnodes⟩, blockPrecedes_flatMap _ ⟨_, _, _, hnodes⟩⟩

/-- Node 1 leads to nodes 2 and 3, node 2 to node 3 and to the missing node 9; nodes 3 and 4 lead to
each other. -/
def mesh : Graph :=
  let node (id : UInt64) (edges : Array Edge) : Node :=
    ⟨⟨id⟩, .module "org.example" "lib" "1.0", ⟨"default", .localProject⟩, edges⟩
  let nodes := [node 1 #[⟨#[⟨2⟩, ⟨3⟩]⟩], node 2 #[⟨#[⟨9⟩, ⟨3⟩]⟩], node 3 #[⟨#[⟨4⟩]⟩],
    node 4 #[⟨#[⟨3⟩]⟩]]
  (Graph.ofNodes nodes).toOption.getD ∅

/-- Visits of the mesh in an order that no sort gives. -/
def meshVisits : List Callback :=
  let node (id : UInt64) : Node := (mesh.node? ⟨id⟩).getD
    ⟨⟨id⟩, .module "org.example" "lib" "1.0", ⟨"default", .localProject⟩, #[]⟩
  let live (id : UInt64) : ArtifactSet :=
    .component ⟨id⟩ (.module "org.example" "lib" "1.0") (.live ⟨0⟩)
  let files : FileDependency := { id := ⟨1⟩, displayName := "files", files := [⟨"extra.jar"⟩] }
  [.visitFile (node 2) files (files.artifacts ⟨21⟩), .visitNode (node 1) (node 2) (live 20),
    .visitNode (node 4) (node 3) (live 30), .visitNode (node 2) (node 3) (live 30),
    .visitNode (node 2) (node 3) .empty, .finish]

/-- The list that the components of the visits share. -/
def meshStore : VariantStore := ⟨#[[{ name := "main", artifacts := [⟨"lib", ⟨"lib.jar"⟩⟩] }]]⟩

theorem adj_mesh : mesh.Adj ⟨1⟩ ⟨2⟩ ∧ mesh.Adj ⟨2⟩ ⟨3⟩ :=
  ⟨(Graph.adj_iff rfl).2 (by decide), (Graph.adj_iff rfl).2 (by decide)⟩

theorem not_reachable_mesh : ¬mesh.Reachable ⟨3⟩ ⟨2⟩ := by
  intro h
  have hmem : (⟨2⟩ : NodeId) ∈ ([⟨3⟩, ⟨4⟩] : List NodeId) := h.mem_of_closed (by decide) (by decide)
  simp at hmem

theorem select_dependency_order_mesh :
    let fresh : ArtifactCollector := { buildProjects := true, order := .dependencyFirst }
    let results := (Visitor.run fresh (.start mesh ⟨1⟩ :: meshVisits)).1.complete meshStore
    let selection := results.select meshStore .acceptAll .first
    let artifactsOf (node : NodeId) := (selection.artifactsFor node).toList
    let builtOf := results.builtFor meshStore .acceptAll .first
    (OneNodeEach (Visitor.accepted fresh (.start mesh ⟨1⟩ :: meshVisits)) ∧
      mesh.Reachable ⟨1⟩ ⟨2⟩ ∧ mesh.Adj ⟨2⟩ ⟨3⟩ ∧ ¬mesh.Reachable ⟨3⟩ ⟨2⟩) ∧
    BlockPrecedes artifactsOf results.nodes ⟨3⟩ ⟨2⟩ selection.artifacts.toList ∧
    BlockPrecedes builtOf results.nodes ⟨3⟩ ⟨2⟩ selection.buildDependencies.toList ∧
    (artifactsOf ⟨3⟩).length = 1 ∧ (artifactsOf ⟨2⟩).length = 2 ∧
    (builtOf ⟨3⟩).length = 1 ∧ (builtOf ⟨2⟩).length = 2 := by
  intro fresh results selection artifactsOf builtOf
  have hone : OneNodeEach (Visitor.accepted fresh (.start mesh ⟨1⟩ :: meshVisits)) := by
    have hall : OneNodeEach (.start mesh ⟨1⟩ :: meshVisits) := by decide
    exact hall.mono (Visitor.accepted_subset _ _)
  have hreach : mesh.Reachable ⟨1⟩ ⟨2⟩ := .single adj_mesh.1
  obtain ⟨hdependencies, _⟩ := select_dependency_order hone hreach adj_mesh.2 not_reachable_mesh
    meshStore meshStore .acceptAll .first
  obtain ⟨hartifacts, hbuilt⟩ := hdependencies rfl
  exact ⟨⟨hone, hreach, adj_mesh.2, not_reachable_mesh⟩, hartifacts, hbuilt,
    by decide +kernel, by decide +kernel, by decide +kernel, by decide +kernel⟩

end ArtifactCollector

end ArtifactResolution
