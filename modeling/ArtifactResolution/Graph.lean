import ArtifactResolution.Component
import ArtifactResolution.Identity
import ArtifactResolution.Table

namespace ArtifactResolution
set_option autoImplicit false

/-- A dependency of a node; it may lead to several targets, whose order counts. -/
structure Edge where
  targets : Array NodeId
deriving DecidableEq

/-- A configuration of a component, with its dependencies in the order of their declaration. -/
structure Node where
  id : NodeId
  owner : ComponentIdentifier
  configuration : Configuration
  edges : Array Edge := #[]
deriving DecidableEq

def Node.addEdge (n : Node) (targets : Array NodeId) : Node :=
  { n with edges := n.edges.push ⟨targets⟩ }

inductive GraphError where
  | duplicateNode (id : NodeId)
  | missingNode (id : NodeId)
deriving DecidableEq

def GraphError.message : GraphError → String
  | duplicateNode id => s!"duplicate node id: {id}"
  | missingNode id => s!"node not found: {id}"

/-- A graph finds each node under its own identity. Edges may lead to nodes that it does not have.
-/
structure Graph where
  table : Table NodeId Node
  id_eq : ∀ {id : NodeId} {n : Node}, table.get? id = some n → n.id = id

namespace Graph

def empty : Graph where
  table := ∅
  id_eq h := by simp at h

instance : EmptyCollection Graph := ⟨empty⟩

def size (g : Graph) : Nat := g.table.size

def isEmpty (g : Graph) : Bool := g.table.isEmpty

def contains (g : Graph) (id : NodeId) : Bool := g.table.contains id

def node? (g : Graph) (id : NodeId) : Option Node := g.table.get? id

def nodes (g : Graph) : List Node := g.table.values

def outgoing (g : Graph) (id : NodeId) : Array Edge := ((g.node? id).map Node.edges).getD #[]

theorem id_eq_insert (g : Graph) (n : Node) {id : NodeId} {n' : Node}
    (h : (g.table.insert n.id n).get? id = some n') : n'.id = id := by
  by_cases hid : n.id = id
  · subst hid
    simp_all
  · exact g.id_eq ((Table.get?_insert_of_ne _ _ hid).symm.trans h)

theorem id_eq_modify (g : Graph) (source : NodeId) (f : Node → Node) (hf : ∀ n, (f n).id = n.id)
    {id : NodeId} {n' : Node} (h : (g.table.modify source f).get? id = some n') : n'.id = id := by
  by_cases hid : source = id
  · subst hid
    rw [Table.get?_modify_self, Option.map_eq_some_iff] at h
    obtain ⟨n, hn, rfl⟩ := h
    exact (hf n).trans (g.id_eq hn)
  · exact g.id_eq ((Table.get?_modify_of_ne _ _ hid).symm.trans h)

theorem mem_nodes_of_node? {g : Graph} {id : NodeId} {n : Node} (h : g.node? id = some n) :
    n ∈ g.nodes :=
  List.mem_map_of_mem (Table.get?_eq_some_iff.1 h)

def addNode (g : Graph) (n : Node) : Except GraphError Graph :=
  if g.contains n.id then .error (.duplicateNode n.id)
  else .ok { table := g.table.insert n.id n, id_eq := g.id_eq_insert n }

/-- Appends an edge to a node of the graph; the targets need not be in it. -/
def addEdge (g : Graph) (source : NodeId) (targets : Array NodeId) : Except GraphError Graph :=
  if g.contains source then
    .ok { table := g.table.modify source (·.addEdge targets)
          id_eq := g.id_eq_modify source (·.addEdge targets) fun _ => rfl }
  else .error (.missingNode source)

def ofNodes (ns : List Node) : Except GraphError Graph := ns.foldlM addNode ∅

end Graph

end ArtifactResolution
