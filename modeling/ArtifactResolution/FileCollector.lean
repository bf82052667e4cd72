import ArtifactResolution.FileResults
import ArtifactResolution.Visitor

namespace ArtifactResolution
set_option autoImplicit false

structure FileCollector where
  root : Option NodeId := none
  byNode : Table NodeId (Table ArtifactSetId ArtifactSet) := ∅
  firstLevel : Table FileDependencyId ArtifactSet := ∅

namespace FileCollector

/-- Records an identified set under its node, and under its declaration if that node is the root
of the current walk. -/
def record (c : FileCollector) (node : NodeId) (dependency : FileDependencyId)
    (id : ArtifactSetId) (set : ArtifactSet) : FileCollector :=
  { c with
    byNode := c.byNode.insert node (((c.byNode.get? node).getD ∅).insert id set)
    firstLevel := if c.root = some node then c.firstLevel.insert dependency set else c.firstLevel }

def accept (c : FileCollector) : Callback → FileCollector
  | .start _ root => { c with root := some root }
  | .visitFile source dependency set =>
    set.id?.elim c fun id => c.record source.id dependency.id id set
  | .visitNode .. => c
  | .finish => c

instance : Visitor FileCollector := ⟨fun c callback => (c.accept callback, .ok ())⟩

def complete (c : FileCollector) (s : VariantStore) : FileResults where
  byNode := c.byNode.map fun _ sets => sets.values.map (·.snapshot s)
  firstLevel := c.firstLevel.map fun _ set => set.snapshot s

end FileCollector

end ArtifactResolution
