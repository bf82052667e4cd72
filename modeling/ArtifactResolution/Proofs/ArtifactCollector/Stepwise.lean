import ArtifactResolution.Proofs.Action
import ArtifactResolution.Proofs.ArtifactCollector.Run
import ArtifactResolution.Proofs.Table

namespace ArtifactResolution.ArtifactCollector
set_option autoImplicit false

abbrev Action := ArtifactResolution.Action ArtifactCollector CollectorError

namespace Action

def unlessStarted : Action :=
  .test fun c => if c.started then .error .alreadyStarted else .ok ()

def ifStarted : Action :=
  .test fun c => if c.started then .ok () else .error .notStarted

def ifGrouped (node : NodeId) : Action :=
  .test fun c => if c.groups.contains node then .ok () else .error (.unsortedNode node)

def setGroup (node : NodeId) : Action :=
  .change fun c => { c with groups := c.groups.insert node ∅ }

def openGroup (node : NodeId) : Action :=
  .change fun c =>
    if c.groups.contains node then c else { c with groups := c.groups.insert node ∅ }

def addToGroup (node : NodeId) (id : ArtifactSetId) : Action :=
  .change fun c => { c with groups := c.groups.modify node (·.insert id) }

def register (id : ArtifactSetId) (set : ArtifactSet) : Action :=
  .change fun c => { c with sets := c.sets.insert id set }

def start (order : SortOrder) (graph : Graph) (root : NodeId) : List Action :=
  unlessStarted :: (.change fun c => { c with started := true }) ::
    if order.isDefault then [] else (graph.sort root order).map setGroup

def findGroup (order : SortOrder) (node : NodeId) : List Action :=
  if order.isDefault then [openGroup node] else [ifStarted, ifGrouped node]

def record (order : SortOrder) (node : NodeId) (set : ArtifactSet) : List Action :=
  findGroup order node ++ set.id?.elim [] fun id => [addToGroup node id, register id set]

/-- What a callback does to a collector with the given order, bit by bit. A test that fails takes no
change back, but each callback makes all its tests before its first change. -/
def ofCallback (order : SortOrder) : Callback → List Action
  | .start graph root => start order graph root
  | .visitNode source target set =>
    record order target.id set ++ set.id?.elim [] fun id => [.change (·.markNode source target id)]
  | .visitFile source _ set =>
    record order source.id set ++ set.id?.elim [] fun id => [.change (·.mark id)]
  | .finish => []

end Action

open ArtifactResolution.Action (perform settle perform_append perform_settled)

variable {c : ArtifactCollector}

theorem receive_eq_settle (callback : Callback) :
    Visitor.receive c callback = settle c (c.accept callback) := by
  cases h : c.accept callback with
  | ok c' => exact receive_of_accept h
  | error e => exact receive_of_refuse h

theorem perform_setGroups (nodes : List NodeId) :
    perform c (nodes.map Action.setGroup) =
      ({ c with groups := nodes.foldl (fun groups node => groups.insert node ∅) c.groups },
        .ok ()) := by
  induction nodes generalizing c with
  | nil => rfl
  | cons node nodes ih => exact ih

theorem perform_start (graph : Graph) (root : NodeId) :
    perform c (Action.start c.order graph root) = settle c (c.start graph root) := by
  rw [Action.start, Action.unlessStarted, start, perform]
  cases c.started with
  | true => rfl
  | false =>
    cases c.order.isDefault with
    | true => rfl
    | false => exact perform_setGroups _

theorem settle_same_group {node : NodeId} {ids : OrderedSet ArtifactSetId}
    (h : c.groups.get? node = some ids) :
    settle c (.ok { c with groups := c.groups.insert node ids }) = (c, (.ok () : Answer)) := by
  rw [settle, Table.insert_of_get?_eq_some h]

theorem perform_findGroup (node : NodeId) :
    perform c (Action.findGroup c.order node) =
      settle c ((c.group node).map fun ids => { c with groups := c.groups.insert node ids }) := by
  rw [Action.findGroup, group]
  by_cases hdefault : c.order.isDefault
  · rw [if_pos hdefault, if_pos hdefault, Action.openGroup, perform,
      Table.contains_eq_isSome_get?]
    cases hget : c.groups.get? node with
    | none => rfl
    | some ids => exact (settle_same_group hget).symm
  · rw [if_neg hdefault, if_neg hdefault, Action.ifStarted, perform]
    by_cases hstarted : c.started
    · rw [if_pos hstarted, if_neg (by simpa using hstarted), Action.ifGrouped, perform,
        Table.contains_eq_isSome_get?]
      cases hget : c.groups.get? node with
      | none => rfl
      | some ids => exact (settle_same_group hget).symm
    · rw [if_neg hstarted, if_pos (by simpa using hstarted)]
      rfl

theorem perform_record (node : NodeId) (set : ArtifactSet) :
    perform c (Action.record c.order node set) = settle c (c.record node set) := by
  rw [Action.record, record, perform_append, perform_findGroup]
  cases c.group node with
  | error e => rfl
  | ok ids =>
    cases set.id? with
    | none => rfl
    | some id =>
      let written (groups : Table NodeId (OrderedSet ArtifactSetId)) : ArtifactCollector × Answer :=
        settle c (.ok { c with groups, sets := c.sets.insert id set })
      show written ((c.groups.insert node ids).modify node (·.insert id)) =
        written (c.groups.insert node (ids.insert id))
      rw [Table.modify_insert_self]

/-- Taken apart, a callback leads to the same state and the same answer. -/
theorem perform_ofCallback (callback : Callback) :
    perform c (Action.ofCallback c.order callback) = Visitor.receive c callback := by
  rw [receive_eq_settle]
  cases callback with
  | start graph root => exact perform_start graph root
  | visitNode source target set =>
    apply perform_settled (perform_record target.id set)
    intro c'
    cases set.id? <;> rfl
  | visitFile source dependency set =>
    apply perform_settled (perform_record source.id set)
    intro c'
    cases set.id? <;> rfl
  | finish => rfl

end ArtifactResolution.ArtifactCollector
