import ArtifactResolution.Graph.Frame
import Mathlib.Data.Finset.Card
import Mathlib.Logic.Relation

namespace ArtifactResolution
set_option autoImplicit false

open Relation

/-- The targets of a node as a walk takes them: edges from the last declared to the first, the
targets of one edge in the order of their declaration. -/
def Node.targets (n : Node) : List NodeId :=
  n.edges.toList.reverse.flatMap fun e => e.targets.toList

namespace Frame

theorem pendingFrom_zero (edges : Array Edge) (unread : Nat) :
    pendingFrom edges unread 0 =
      (edges.toList.take unread).reverse.flatMap fun e => e.targets.toList := by
  induction unread with
  | zero => rfl
  | succ unread ih =>
    rw [pendingFrom, List.drop_zero, ih, List.take_add_one, List.reverse_append,
      List.flatMap_append]
    congr 1
    cases h : edges[unread]? with
    | none => simp [targetsAt, h]
    | some e => simp [targetsAt, h]

theorem pending_enter_eq_flatMap (id : NodeId) (edges : Array Edge) :
    (enter id edges).pending = edges.toList.reverse.flatMap fun e => e.targets.toList := by
  rw [pending, enter, pendingFrom_zero, ← Array.length_toList, List.take_length]

@[simp] theorem pending_enter (id : NodeId) (n : Node) :
    (enter id n.edges).pending = n.targets :=
  pending_enter_eq_flatMap id n.edges

end Frame

namespace Graph
variable {g : Graph} {a b id root : NodeId} {n : Node}

/-- An edge leads from the first node to the second, and the graph has both. -/
def Adj (g : Graph) (a b : NodeId) : Prop :=
  (∃ e ∈ g.outgoing a, b ∈ e.targets) ∧ g.contains b

abbrev Reachable (g : Graph) : NodeId → NodeId → Prop := ReflTransGen g.Adj

def ids (g : Graph) : Finset NodeId := (g.nodes.map Node.id).toFinset

theorem contains_eq_isSome : g.contains id = (g.node? id).isSome :=
  g.table.contains_eq_isSome_get? id

theorem contains_of_node? (h : g.node? id = some n) : g.contains id := by
  rw [contains_eq_isSome, h]
  rfl

theorem node?_eq_none_iff : g.node? id = none ↔ ¬g.contains id := by
  rw [contains_eq_isSome]
  cases g.node? id <;> simp

theorem mem_ids_of_node? (h : g.node? id = some n) : id ∈ g.ids := by
  rw [ids, List.mem_toFinset, ← g.id_eq h]
  exact List.mem_map_of_mem (mem_nodes_of_node? h)

theorem outgoing_of_node? (h : g.node? id = some n) : g.outgoing id = n.edges := by
  rw [outgoing, h]
  rfl

theorem adj_iff (h : g.node? a = some n) : g.Adj a b ↔ b ∈ n.targets ∧ g.contains b := by
  simp [Adj, outgoing_of_node? h, Node.targets]

theorem Adj.contains (h : g.Adj a b) : g.contains b := h.2

theorem Reachable.contains (h : g.Reachable root id) (hroot : g.contains root) :
    g.contains id := by
  induction h with
  | refl => exact hroot
  | tail _ h => exact h.contains

theorem Adj.contains_left (h : g.Adj a b) : g.contains a := by
  obtain ⟨⟨e, he, _⟩, _⟩ := h
  rw [contains_eq_isSome]
  cases hn : g.node? a with
  | none => simp [outgoing, hn] at he
  | some n => rfl

theorem Reachable.contains_root (h : g.Reachable root a) (ha : g.contains a) : g.contains root := by
  rcases h.cases_head with rfl | ⟨b, hb, _⟩
  · exact ha
  · exact hb.contains_left

theorem Reachable.mem_of_closed {ids : List NodeId} (h : g.Reachable root id)
    (hclosed : ∀ a ∈ ids, ∀ e ∈ g.outgoing a, ∀ b ∈ e.targets, b ∈ ids) (hroot : root ∈ ids) :
    id ∈ ids := by
  induction h with
  | refl => exact hroot
  | tail _ hadj ih =>
    obtain ⟨⟨e, he, hb⟩, _⟩ := hadj
    exact hclosed _ ih e he _ hb

end Graph

end ArtifactResolution
