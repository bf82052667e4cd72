import ArtifactResolution.Proofs.Selection.WithoutCache
import Mathlib.Data.List.Perm.Basic

namespace ArtifactResolution.ArtifactResults
set_option autoImplicit false

variable {r r' : ArtifactResults}

/-- The groups name the same sets, the same sets stand under all identities, and the same sets are
to be built. Nodes with empty groups do not matter. -/
structure SameContent (r r' : ArtifactResults) : Prop where
  setIds_perm : ∀ node, (r.setIds node).Perm (r'.setIds node)
  artifactSet_eq : ∀ id, r.artifactSet id = r'.artifactSet id
  isBuildable_eq : ∀ id, r.isBuildable id = r'.isBuildable id

def filledNodes (r : ArtifactResults) : List NodeId := r.nodes.filter fun node => r.setIds node ≠ []

theorem mem_filledNodes_iff {node : NodeId} : node ∈ r.filledNodes ↔ r.setIds node ≠ [] := by
  rw [filledNodes, List.mem_filter, decide_eq_true_iff]
  refine ⟨And.right, fun hfilled => ⟨?_, hfilled⟩⟩
  by_contra hnode
  exact hfilled (r.setIds_of_notMem hnode)

theorem nodup_filledNodes (r : ArtifactResults) : r.filledNodes.Nodup :=
  (Table.nodup_keys r.groups).filter _

theorem groupedIds_eq_flatMap_filledNodes (r : ArtifactResults) :
    r.groupedIds = r.filledNodes.flatMap r.setIds := by
  rw [groupedIds_eq_flatMap, filledNodes]
  induction r.nodes with
  | nil => rfl
  | cons node nodes ih =>
    by_cases hempty : r.setIds node = []
    · simpa [hempty] using ih
    · simpa [hempty] using ih

namespace SameContent
variable (h : SameContent r r')
include h

theorem filledNodes_perm : r.filledNodes.Perm r'.filledNodes := by
  apply (List.perm_ext_iff_of_nodup r.nodup_filledNodes r'.nodup_filledNodes).2
  intro node
  have hempty : r.setIds node = [] ↔ r'.setIds node = [] := by
    rw [← List.length_eq_zero_iff, ← List.length_eq_zero_iff, (h.setIds_perm node).length_eq]
  rw [mem_filledNodes_iff, mem_filledNodes_iff, ne_eq, ne_eq, hempty]

theorem groupedIds_perm : r.groupedIds.Perm r'.groupedIds := by
  rw [groupedIds_eq_flatMap_filledNodes, groupedIds_eq_flatMap_filledNodes]
  exact h.filledNodes_perm.flatMap fun node _ => h.setIds_perm node

theorem builtIds_perm : r.builtIds.Perm r'.builtIds := by
  have hbuildable : r.isBuildable = r'.isBuildable := funext h.isBuildable_eq
  rw [builtIds, builtIds, hbuildable]
  exact (perm_eraseDups h.groupedIds_perm).filter _

section
variable (s : VariantStore) (filter : ComponentFilter) (selector : VariantSelector)

theorem takenUnder_eq : r.takenUnder s filter selector = r'.takenUnder s filter selector := by
  funext id
  rw [ArtifactResults.takenUnder_eq, ArtifactResults.takenUnder_eq, h.artifactSet_eq]

theorem artifactsFor_perm (node : NodeId) :
    ((r.select s filter selector).artifactsFor node).toList.Perm
      ((r'.select s filter selector).artifactsFor node).toList := by
  rw [toList_artifactsFor_eq_takenFor, toList_artifactsFor_eq_takenFor, takenFor_eq_flatMap,
    takenFor_eq_flatMap, h.takenUnder_eq]
  exact (h.setIds_perm node).flatMap_right _

theorem artifacts_perm : (r.select s filter selector).artifacts.toList.Perm
    (r'.select s filter selector).artifacts.toList := by
  rw [toList_artifacts_eq_groupedIds, toList_artifacts_eq_groupedIds, h.takenUnder_eq]
  exact h.groupedIds_perm.flatMap_right _

theorem buildDependencies_perm : (r.select s filter selector).buildDependencies.toList.Perm
    (r'.select s filter selector).buildDependencies.toList := by
  rw [toList_buildDependencies_eq_builtIds, toList_buildDependencies_eq_builtIds, h.takenUnder_eq]
  exact h.builtIds_perm.flatMap_right _

end

end SameContent

end ArtifactResolution.ArtifactResults
