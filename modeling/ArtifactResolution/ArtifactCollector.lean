import ArtifactResolution.ArtifactResults
import ArtifactResolution.BuildDecision
import ArtifactResolution.Graph.Sort
import ArtifactResolution.Settings
import ArtifactResolution.Visitor

namespace ArtifactResolution
set_option autoImplicit false

structure ArtifactCollector where
  buildProjects : Bool
  order : SortOrder
  started : Bool := false
  groups : Table NodeId (OrderedSet ArtifactSetId) := ∅
  sets : Table ArtifactSetId ArtifactSet := ∅
  buildable : OrderedSet ArtifactSetId := ∅

namespace ArtifactCollector

def ofSettings (s : ResolutionSettings) : ArtifactCollector :=
  { buildProjects := s.buildProjects, order := s.order }

/-- Opens the groups of the order; a collection starts at most once. By default groups appear as
nodes are visited, and in any other order the start makes a group for every node of the order. -/
def start (c : ArtifactCollector) (graph : Graph) (root : NodeId) :
    Except CollectorError ArtifactCollector :=
  if c.started then .error .alreadyStarted
  else if c.order.isDefault then .ok { c with started := true }
  else .ok
    { c with
      started := true
      groups := (graph.sort root c.order).foldl (fun groups node => groups.insert node ∅) c.groups }

def group (c : ArtifactCollector) (node : NodeId) :
    Except CollectorError (OrderedSet ArtifactSetId) :=
  if c.order.isDefault then .ok ((c.groups.get? node).getD ∅)
  else if !c.started then .error .notStarted
  else
    match c.groups.get? node with
    | some ids => .ok ids
    | none => .error (.unsortedNode node)

/-- Records a set in the group of a node; a set without identity leaves only the group. -/
def record (c : ArtifactCollector) (node : NodeId) (set : ArtifactSet) :
    Except CollectorError ArtifactCollector :=
  (c.group node).map fun ids =>
    match set.id? with
    | none => { c with groups := c.groups.insert node ids }
    | some id =>
      { c with
        groups := c.groups.insert node (ids.insert id)
        sets := c.sets.insert id set }

def mark (c : ArtifactCollector) (id : ArtifactSetId) : ArtifactCollector :=
  { c with buildable := c.buildable.insert id }

/-- Notes that a set must be built if the edge over which it was reached says so. -/
def markNode (c : ArtifactCollector) (source target : Node) (id : ArtifactSetId) :
    ArtifactCollector :=
  if (BuildDecision.ofEdge source target c.buildProjects (c.buildable.contains id)).isBuildable
  then c.mark id
  else c

def accept (c : ArtifactCollector) : Callback → Except CollectorError ArtifactCollector
  | .start graph root => c.start graph root
  | .visitNode source target set =>
    (c.record target.id set).map fun c => set.id?.elim c (c.markNode source target)
  | .visitFile source _ set => (c.record source.id set).map fun c => set.id?.elim c c.mark
  | .finish => .ok c

instance : Visitor ArtifactCollector where
  receive c callback :=
    match c.accept callback with
    | .ok c' => (c', .ok ())
    | .error e => (c, .error e)

/-- Ends the collection; the result keeps every set as it is now. -/
def complete (c : ArtifactCollector) (s : VariantStore) : ArtifactResults where
  groups := c.groups.map fun _ ids => ids.toList
  sets := c.sets.map fun _ set => set.snapshot s
  buildable := c.buildable

end ArtifactCollector

end ArtifactResolution
