import ArtifactResolution.ArtifactSet
import ArtifactResolution.SelectionCache
import ArtifactResolution.Statistics

namespace ArtifactResolution
set_option autoImplicit false

/-- Collected sets by node and by identity; lookups of unknown keys give nothing. -/
structure ArtifactResults where
  groups : Table NodeId (List ArtifactSetId) := ∅
  sets : Table ArtifactSetId ArtifactSet := ∅
  buildable : OrderedSet ArtifactSetId := ∅

/-- What a consumer takes of every node, of all together, and of the sets that must be built. -/
structure ArtifactSelection where
  byNode : Table NodeId ResolvedSet
  artifacts : ResolvedSet
  buildDependencies : ResolvedSet

namespace ArtifactResults

instance : EmptyCollection ArtifactResults := ⟨{}⟩

def nodes (r : ArtifactResults) : List NodeId := r.groups.keys

def setIds (r : ArtifactResults) (node : NodeId) : List ArtifactSetId :=
  (r.groups.get? node).getD []

def artifactSet (r : ArtifactResults) (id : ArtifactSetId) : ArtifactSet :=
  (r.sets.get? id).getD ∅

def isBuildable (r : ArtifactResults) (id : ArtifactSetId) : Bool := r.buildable.contains id

/-- The sets that must be built, in the order in which that was found. -/
def buildableIds (r : ArtifactResults) : List ArtifactSetId := r.buildable.toList

def statistics (r : ArtifactResults) : ArtifactStatistics where
  nodeCount := r.groups.size
  artifactSetCount := r.sets.size
  buildableCount := r.buildable.size

def groupedIds (r : ArtifactResults) : List ArtifactSetId := r.groups.values.flatten

/-- Selects each set once and puts the selections together by node. -/
def select (r : ArtifactResults) (s : VariantStore) (filter : ComponentFilter)
    (selector : VariantSelector) : ArtifactSelection :=
  let cache : SelectionCache := .ofEntries (·.select s filter selector)
    (r.groupedIds.map fun id => (id, r.artifactSet id))
  let byNode := r.groups.map fun _ ids => ResolvedSet.compose (ids.map cache.selected)
  { byNode := byNode
    artifacts := .compose byNode.values
    buildDependencies := .compose
      ((OrderedSet.ofList (r.groupedIds.filter r.isBuildable)).toList.map cache.selected) }

end ArtifactResults

namespace ArtifactSelection

def nodes (a : ArtifactSelection) : List NodeId := a.byNode.keys

def artifactsFor (a : ArtifactSelection) (node : NodeId) : ResolvedSet := (a.byNode.get? node).getD ∅

/-- Whether two selections take the same, whatever the order of their nodes. -/
def agrees (a b : ArtifactSelection) : Bool :=
  a.byNode.agrees (fun (x y : ResolvedSet) => decide (x ≈ y)) b.byNode &&
    decide (a.artifacts ≈ b.artifacts ∧ a.buildDependencies ≈ b.buildDependencies)

end ArtifactSelection

end ArtifactResolution
