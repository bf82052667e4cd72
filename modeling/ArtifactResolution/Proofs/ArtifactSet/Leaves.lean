import ArtifactResolution.Proofs.ArtifactSet
import ArtifactResolution.Proofs.ResolvedSet.Construction

namespace ArtifactResolution
set_option autoImplicit false

theorem VariantSelector.canonical_resolve (selector : VariantSelector)
    (owner : Option ComponentIdentifier) (candidates : List Variant) :
    (selector.resolve owner candidates).Canonical := by
  rw [resolve]
  split
  · exact ResolvedSet.canonical_ofList _
  · exact ResolvedSet.canonical_empty

namespace ArtifactSet

mutual

/-- The sets of components and of files in a set, depth first. -/
def leaves : ArtifactSet → List ArtifactSet
  | component id owner variants => [component id owner variants]
  | files id dependency owner paths => [files id dependency owner paths]
  | composite _ members => leavesAll members
  | empty => []

def leavesAll : List ArtifactSet → List ArtifactSet
  | [] => []
  | set :: sets => leaves set ++ leavesAll sets

end

@[simp] theorem leavesAll_eq_flatMap (sets : List ArtifactSet) :
    leavesAll sets = sets.flatMap leaves := by
  induction sets with
  | nil => simp [leavesAll]
  | cons set sets ih => simp [leavesAll, ih]

/-- Whether a set is that of a component or of files. -/
def isLeaf : ArtifactSet → Bool
  | component .. => true
  | files .. => true
  | composite .. => false
  | empty => false

theorem isLeaf_of_mem_leaves {set leaf : ArtifactSet} (h : leaf ∈ set.leaves) : leaf.isLeaf := by
  induction set using ArtifactSet.induction with
  | component id owner variants =>
    obtain rfl := List.mem_singleton.1 h
    rfl
  | files id dependency owner paths =>
    obtain rfl := List.mem_singleton.1 h
    rfl
  | composite id members ih =>
    rw [leaves, leavesAll_eq_flatMap] at h
    obtain ⟨m, hm, hleaf⟩ := List.mem_flatMap.1 h
    exact ih m hm hleaf
  | empty => cases h

section
variable (s : VariantStore) (filter : ComponentFilter) (selector : VariantSelector)

theorem canonical_selectFiles (owner : Option ComponentIdentifier) (paths : List UnixPath) :
    (selectFiles owner paths filter selector).Canonical := by
  rw [selectFiles]
  split
  · apply ResolvedSet.canonical_compose
    intro chosen hchosen
    obtain ⟨file, _, rfl⟩ := List.mem_map.1 hchosen
    exact selector.canonical_resolve owner _
  · exact ResolvedSet.canonical_empty

theorem canonical_selectComponent (owner : ComponentIdentifier) (candidates : List Variant) :
    (selectComponent owner candidates filter selector).Canonical := by
  rw [selectComponent]
  split
  · exact selector.canonical_resolve (some owner) candidates
  · exact ResolvedSet.canonical_empty

/-- What is selected from the leaves, put together at once, is what the composites put together. -/
theorem select_eq_compose_leaves (set : ArtifactSet) :
    set.select s filter selector = .compose (set.leaves.map (select s filter selector)) := by
  induction set using ArtifactSet.induction with
  | component id owner variants =>
    exact (canonical_selectComponent filter selector owner _).compose_singleton.symm
  | files id dependency owner paths =>
    exact (canonical_selectFiles filter selector owner paths).compose_singleton.symm
  | composite id members ih =>
    rw [select, selectAll_eq_map, List.map_congr_left ih, ResolvedSet.compose_map_compose_map,
      leaves, leavesAll_eq_flatMap]
  | empty => rfl

theorem toList_select_eq_leaves (set : ArtifactSet) :
    (set.select s filter selector).toList =
      set.leaves.flatMap fun leaf => (leaf.select s filter selector).toList := by
  rw [select_eq_compose_leaves, ResolvedSet.toList_compose, List.flatMap_map]

end

theorem select_eq_of_leaves_eq {set set' : ArtifactSet} (h : set.leaves = set'.leaves)
    (s : VariantStore) (filter : ComponentFilter) (selector : VariantSelector) :
    set.select s filter selector = set'.select s filter selector := by
  rw [select_eq_compose_leaves, h, ← select_eq_compose_leaves]

end ArtifactSet

end ArtifactResolution
