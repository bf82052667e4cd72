import ArtifactResolution.Proofs.Selection.Listing

namespace ArtifactResolution
set_option autoImplicit false

/-- One resolved set is another without the artifacts of rejected components: no artifact of such a
component is in it, and artifacts without a component are all there. -/
structure Filtered (filter : ComponentFilter) (kept all : ResolvedSet) : Prop where
  toList_eq : kept.toList = all.toList.filter fun a => filter.accepts a.owner
  accepted : ∀ a ∈ kept.toList, ∀ owner, a.owner = some owner → filter owner
  unowned_eq : kept.toList.filter (·.owner.isNone) = all.toList.filter (·.owner.isNone)

namespace Filtered
variable {filter : ComponentFilter} {kept all : ResolvedSet}

theorem of_toList_eq (h : kept.toList = all.toList.filter fun a => filter.accepts a.owner) :
    Filtered filter kept all where
  toList_eq := h
  accepted := by
    intro a ha owner howner
    rw [h, List.mem_filter, howner] at ha
    exact ha.2
  unowned_eq := by
    rw [h, List.filter_filter]
    apply List.filter_congr
    intro a _
    cases howner : a.owner <;> simp [ComponentFilter.accepts]

theorem empty : Filtered filter ∅ ∅ := of_toList_eq rfl

theorem of_pieces {α : Type} {pieces : List α} {f g : α → ResolvedSet}
    (hkept : kept.toList = pieces.flatMap fun a => (f a).toList)
    (hall : all.toList = pieces.flatMap fun a => (g a).toList)
    (h : ∀ a ∈ pieces, Filtered filter (f a) (g a)) : Filtered filter kept all := by
  apply of_toList_eq
  rw [hkept, hall, List.filter_flatMap]
  apply List.flatMap_congr
  intro a ha
  exact (h a ha).toList_eq

theorem resolve (selector : VariantSelector) (owner : Option ComponentIdentifier)
    (candidates : List Variant) :
    Filtered filter (if filter.accepts owner then selector.resolve owner candidates else ∅)
      (selector.resolve owner candidates) := by
  apply of_toList_eq
  have howner (a : ResolvedArtifact) (ha : a ∈ (selector.resolve owner candidates).toList) :
      a.owner = owner := VariantSelector.owner_of_mem_resolve ha
  split
  · next haccepts =>
    symm
    apply List.filter_eq_self.2
    intro a ha
    rw [howner a ha]
    exact haccepts
  · next hrejects =>
    symm
    apply List.filter_eq_nil_iff.2
    intro a ha
    rw [howner a ha]
    exact hrejects

end Filtered

variable (s : VariantStore) (filter : ComponentFilter) (selector : VariantSelector)

namespace ArtifactSet

theorem filtered_selectComponent (owner : ComponentIdentifier) (candidates : List Variant) :
    Filtered filter (selectComponent owner candidates filter selector)
      (selectComponent owner candidates .acceptAll selector) :=
  Filtered.resolve selector (some owner) candidates

theorem filtered_selectFiles (owner : Option ComponentIdentifier) (paths : List UnixPath) :
    Filtered filter (selectFiles owner paths filter selector)
      (selectFiles owner paths .acceptAll selector) := by
  let piece (file : UnixPath) := selector.resolve owner [Variant.ofFile file]
  have haccepts : ComponentFilter.accepts .acceptAll owner = true := by
    cases owner <;> rfl
  have hkept : (selectFiles owner paths filter selector).toList =
      paths.flatMap fun file => (if filter.accepts owner then piece file else ∅).toList := by
    rw [toList_selectFiles]
    split <;> simp [piece]
  have hall : (selectFiles owner paths .acceptAll selector).toList =
      paths.flatMap fun file => (piece file).toList := by
    rw [toList_selectFiles, if_pos haccepts]
  exact Filtered.of_pieces hkept hall fun file _ =>
    Filtered.resolve selector owner [Variant.ofFile file]

theorem filtered_select (set : ArtifactSet) :
    Filtered filter (set.select s filter selector) (set.select s .acceptAll selector) := by
  induction set using ArtifactSet.induction with
  | component id owner variants => exact filtered_selectComponent filter selector owner _
  | files id dependency owner paths => exact filtered_selectFiles filter selector owner paths
  | composite id members ih =>
    exact Filtered.of_pieces (toList_select_composite s filter selector id members)
      (toList_select_composite s .acceptAll selector id members) ih
  | empty => exact Filtered.empty

end ArtifactSet

theorem ArtifactResults.filtered_artifactsFor (r : ArtifactResults) (node : NodeId) :
    Filtered filter ((r.select s filter selector).artifactsFor node)
      ((r.select s .acceptAll selector).artifactsFor node) :=
  Filtered.of_pieces (r.toList_artifactsFor s filter selector node)
    (r.toList_artifactsFor s .acceptAll selector node)
    fun id _ => (r.artifactSet id).filtered_select s filter selector

theorem FileResults.filtered_artifactsFor (r : FileResults) (node : NodeId) :
    Filtered filter ((r.select s filter selector).artifactsFor node)
      ((r.select s .acceptAll selector).artifactsFor node) :=
  Filtered.of_pieces (r.toList_artifactsFor s filter selector node)
    (r.toList_artifactsFor s .acceptAll selector node)
    fun set _ => (r.representative set).filtered_select s filter selector

/-- To filter components before the selection is to filter artifacts after it: of a set of any
composition, of a collection's results by node, all together and to be built, and of collected
files by node, by declaration and all together. -/
theorem select_filtered :
    (∀ set : ArtifactSet,
      Filtered filter (set.select s filter selector) (set.select s .acceptAll selector)) ∧
    (∀ r : ArtifactResults,
      let kept := r.select s filter selector
      let all := r.select s .acceptAll selector
      (∀ node, Filtered filter (kept.artifactsFor node) (all.artifactsFor node)) ∧
      Filtered filter kept.artifacts all.artifacts ∧
      Filtered filter kept.buildDependencies all.buildDependencies) ∧
    (∀ r : FileResults,
      let kept := r.select s filter selector
      let all := r.select s .acceptAll selector
      (∀ node, Filtered filter (kept.artifactsFor node) (all.artifactsFor node)) ∧
      (∀ id, Filtered filter (kept.firstLevelFor id) (all.firstLevelFor id)) ∧
      Filtered filter kept.artifacts all.artifacts) := by
  refine ⟨ArtifactSet.filtered_select s filter selector, fun r => ⟨?_, ?_, ?_⟩,
    fun r => ⟨?_, ?_, ?_⟩⟩
  · exact r.filtered_artifactsFor s filter selector
  · exact Filtered.of_pieces (r.toList_artifacts s filter selector)
      (r.toList_artifacts s .acceptAll selector)
      fun node _ => r.filtered_artifactsFor s filter selector node
  · exact Filtered.of_pieces (r.toList_buildDependencies s filter selector)
      (r.toList_buildDependencies s .acceptAll selector)
      fun id _ => (r.artifactSet id).filtered_select s filter selector
  · exact r.filtered_artifactsFor s filter selector
  · intro id
    exact Filtered.of_pieces (r.toList_firstLevelFor s filter selector id)
      (r.toList_firstLevelFor s .acceptAll selector id)
      fun set _ => (r.representative set).filtered_select s filter selector
  · exact Filtered.of_pieces (r.toList_artifacts s filter selector)
      (r.toList_artifacts s .acceptAll selector)
      fun node _ => r.filtered_artifactsFor s filter selector node

end ArtifactResolution
