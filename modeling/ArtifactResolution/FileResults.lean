import ArtifactResolution.ArtifactSet
import ArtifactResolution.SelectionCache

namespace ArtifactResolution
set_option autoImplicit false

structure FileResults where
  byNode : Table NodeId (List ArtifactSet) := ∅
  firstLevel : Table FileDependencyId ArtifactSet := ∅

/-- What a consumer takes of every node, of every declaration of the root, and of all nodes. -/
structure FileSelection where
  byNode : Table NodeId ResolvedSet
  firstLevel : Table FileDependencyId ResolvedSet
  artifacts : ResolvedSet

namespace FileResults

def nodes (r : FileResults) : List NodeId := r.byNode.keys

def firstLevelIds (r : FileResults) : List FileDependencyId := r.firstLevel.keys

/-- The identified sets, those of the nodes before those of the root's declarations. -/
def entries (r : FileResults) : List (ArtifactSetId × ArtifactSet) :=
  (r.byNode.values.flatten ++ r.firstLevel.values).filterMap fun set => set.id?.map (·, set)

/-- Selects the first set under each identity for all sets that share it. -/
def select (r : FileResults) (s : VariantStore) (filter : ComponentFilter)
    (selector : VariantSelector) : FileSelection :=
  let cache : SelectionCache := .ofEntries (·.select s filter selector) r.entries
  let selected (set : ArtifactSet) : ResolvedSet := set.id?.elim ∅ cache.selected
  let byNode := r.byNode.map fun _ sets => ResolvedSet.compose (sets.map selected)
  { byNode := byNode
    firstLevel := r.firstLevel.map fun _ set => selected set
    artifacts := .compose byNode.values }

end FileResults

namespace FileSelection

def artifactsFor (f : FileSelection) (node : NodeId) : ResolvedSet := (f.byNode.get? node).getD ∅

def firstLevelFor (f : FileSelection) (id : FileDependencyId) : ResolvedSet :=
  (f.firstLevel.get? id).getD ∅

/-- Whether two selections take the same, whatever the order of nodes and declarations. -/
def agrees (a b : FileSelection) : Bool :=
  a.byNode.agrees (fun (x y : ResolvedSet) => decide (x ≈ y)) b.byNode &&
    a.firstLevel.agrees (fun (x y : ResolvedSet) => decide (x ≈ y)) b.firstLevel &&
    decide (a.artifacts ≈ b.artifacts)

end FileSelection

end ArtifactResolution
