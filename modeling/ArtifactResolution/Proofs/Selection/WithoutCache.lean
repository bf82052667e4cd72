import ArtifactResolution.Proofs.Selection.Listing
import Mathlib.Algebra.GroupWithZero.Nat
import Mathlib.Data.List.Flatten

namespace ArtifactResolution.ArtifactResults
set_option autoImplicit false

section
variable (r : ArtifactResults) (s : VariantStore) (filter : ComponentFilter)
  (selector : VariantSelector)

/-- What is taken from the set registered under an identity; nothing where there is none. -/
def takenUnder (id : ArtifactSetId) : List ResolvedArtifact :=
  match r.sets.get? id with
  | some set => (set.select s filter selector).toList
  | none => []

/-- What is taken of a node, set by set in the order of its group; nothing of an unknown node. -/
def takenFor (node : NodeId) : List ResolvedArtifact :=
  match r.groups.get? node with
  | some ids => ids.flatMap (r.takenUnder s filter selector)
  | none => []

theorem takenUnder_eq (id : ArtifactSetId) :
    r.takenUnder s filter selector id = ((r.artifactSet id).select s filter selector).toList := by
  rw [takenUnder, artifactSet]
  cases r.sets.get? id with
  | some set => rfl
  | none => rfl

theorem takenFor_eq_flatMap (node : NodeId) :
    r.takenFor s filter selector node =
      (r.setIds node).flatMap (r.takenUnder s filter selector) := by
  rw [takenFor, setIds]
  cases r.groups.get? node with
  | some ids => rfl
  | none => rfl

theorem toList_artifactsFor_eq_takenFor (node : NodeId) :
    ((r.select s filter selector).artifactsFor node).toList =
      r.takenFor s filter selector node := by
  rw [toList_artifactsFor, takenFor_eq_flatMap]
  apply List.flatMap_congr
  intro id _
  exact (r.takenUnder_eq s filter selector id).symm

theorem toList_artifacts_eq_groupedIds : (r.select s filter selector).artifacts.toList =
    r.groupedIds.flatMap (r.takenUnder s filter selector) := by
  rw [toList_artifacts, groupedIds_eq_flatMap, List.flatMap_assoc]
  apply List.flatMap_congr
  intro node _
  rw [toList_artifactsFor_eq_takenFor, takenFor_eq_flatMap]

/-- The sets to be built, in the order in which the groups first name them. -/
def builtIds : List ArtifactSetId := r.groupedIds.eraseDups.filter r.isBuildable

theorem setIds_of_notMem {node : NodeId} (h : node ∉ r.nodes) : r.setIds node = [] := by
  rw [setIds, Table.get?_eq_none_iff.2 h, Option.getD_none]

theorem mem_groupedIds_iff {id : ArtifactSetId} :
    id ∈ r.groupedIds ↔ ∃ node, id ∈ r.setIds node := by
  rw [groupedIds_eq_flatMap, List.mem_flatMap]
  constructor
  · rintro ⟨node, _, hid⟩
    exact ⟨node, hid⟩
  · rintro ⟨node, hid⟩
    refine ⟨node, ?_, hid⟩
    by_contra hnode
    rw [r.setIds_of_notMem hnode] at hid
    cases hid

theorem mem_buildableIds_iff {r : ArtifactResults} {id : ArtifactSetId} :
    id ∈ r.buildableIds ↔ r.isBuildable id :=
  OrderedSet.mem_toList_iff

theorem mem_builtIds_iff {id : ArtifactSetId} :
    id ∈ r.builtIds ↔ r.isBuildable id ∧ ∃ node, id ∈ r.setIds node := by
  rw [builtIds, List.mem_filter, List.mem_eraseDups, mem_groupedIds_iff, and_comm]

theorem toList_buildDependencies_eq_builtIds :
    (r.select s filter selector).buildDependencies.toList =
      r.builtIds.flatMap (r.takenUnder s filter selector) := by
  rw [toList_buildDependencies, eraseDups_filter, builtIds]
  apply List.flatMap_congr
  intro id _
  exact (r.takenUnder_eq s filter selector id).symm

end

/-- A selection lists what is taken without a cache: all nodes of the results in their order; of
each node the artifacts of its sets; altogether the artifacts of the sets in all groups, a set as
often as the groups name it; and to be built the artifacts of the marked sets that some group names,
each set once, where it is named first, and hence a part of all artifacts in the same order. -/
theorem select_eq_taken (r : ArtifactResults) (s : VariantStore) (filter : ComponentFilter)
    (selector : VariantSelector) :
    let selection := r.select s filter selector
    let taken := r.takenUnder s filter selector
    selection.nodes = r.nodes ∧
    (∀ node, (selection.artifactsFor node).toList = r.takenFor s filter selector node) ∧
    selection.artifacts.toList = r.nodes.flatMap (r.takenFor s filter selector) ∧
    selection.artifacts.toList = r.groupedIds.flatMap taken ∧
    (∀ id, r.groupedIds.count id = (r.nodes.map fun node => (r.setIds node).count id).sum) ∧
    (∃ built : List ArtifactSetId,
      (∀ id, id ∈ built ↔ r.isBuildable id ∧ ∃ node, id ∈ r.setIds node) ∧
      built.Pairwise (fun id id' => r.groupedIds.idxOf id < r.groupedIds.idxOf id') ∧
      selection.buildDependencies.toList = built.flatMap taken) ∧
    selection.buildDependencies.toList.Sublist selection.artifacts.toList := by
  intro selection taken
  have hfor (node : NodeId) :
      (selection.artifactsFor node).toList = r.takenFor s filter selector node :=
    r.toList_artifactsFor_eq_takenFor s filter selector node
  have hall : selection.artifacts.toList = r.groupedIds.flatMap taken :=
    r.toList_artifacts_eq_groupedIds s filter selector
  have hbuilt : selection.buildDependencies.toList = r.builtIds.flatMap taken :=
    r.toList_buildDependencies_eq_builtIds s filter selector
  have hsublist : r.builtIds.Sublist r.groupedIds :=
    List.filter_sublist.trans (eraseDups_sublist r.groupedIds)
  refine ⟨r.nodes_select s filter selector, hfor, ?_, hall, ?_, ⟨r.builtIds, ?_, ?_, hbuilt⟩, ?_⟩
  · rw [r.toList_artifacts s filter selector]
    exact List.flatMap_congr fun node _ => hfor node
  · intro id
    rw [groupedIds_eq_flatMap, List.count_flatMap]
    rfl
  · exact fun id => r.mem_builtIds_iff
  · exact (pairwise_idxOf_eraseDups r.groupedIds).filter _
  · rw [hbuilt, hall]
    exact hsublist.flatMap taken

end ArtifactResolution.ArtifactResults
