import ArtifactResolution.Proofs.Graph.WalkInvariant
import Mathlib.Data.Finset.SDiff

namespace ArtifactResolution
set_option autoImplicit false

/-- The nodes entered so far, and those placed so far, the first placed first. -/
structure Traversal where
  entered : Finset NodeId := ∅
  placed : List NodeId := []

namespace Traversal

def enter (t : Traversal) (id : NodeId) : Traversal := { t with entered := insert id t.entered }

def place (t : Traversal) (id : NodeId) : Traversal := { t with placed := t.placed ++ [id] }

/-- A later traversal, in which no node is forgotten. -/
abbrev Extension (t : Traversal) := { t' : Traversal // t.entered ⊆ t'.entered }

def unentered (g : Graph) (t : Traversal) : Nat := (g.ids \ t.entered).card

theorem unentered_le {g : Graph} {t : Traversal} (t' : t.Extension) :
    t'.1.unentered g ≤ t.unentered g :=
  Finset.card_le_card (Finset.sdiff_subset_sdiff subset_rfl t'.2)

theorem unentered_enter_lt {g : Graph} {t : Traversal} {id : NodeId} {n : Node}
    (hn : g.node? id = some n) (hid : id ∉ t.entered) :
    (t.enter id).unentered g < t.unentered g := by
  have hsubset : g.ids \ (t.enter id).entered ⊆ g.ids \ t.entered :=
    Finset.sdiff_subset_sdiff subset_rfl (Finset.subset_insert id t.entered)
  apply Finset.card_lt_card
  apply (Finset.ssubset_iff_of_subset hsubset).2
  exact ⟨id, Finset.mem_sdiff.2 ⟨Graph.mem_ids_of_node? hn, hid⟩, by simp [enter]⟩

end Traversal

namespace Graph

mutual

/-- Visits a node. A node that was entered before or that the graph lacks changes nothing; any other
is entered, its targets are visited, and it is placed. -/
def visit (g : Graph) (t : Traversal) (id : NodeId) : t.Extension :=
  if _h : id ∈ t.entered then ⟨t, subset_rfl⟩
  else
    match _hn : g.node? id with
    | none => ⟨t, subset_rfl⟩
    | some n =>
      let inner := visitAll g (t.enter id) n.targets
      ⟨inner.1.place id, (Finset.subset_insert id t.entered).trans inner.2⟩
termination_by (t.unentered g, 0)
decreasing_by exact .left _ _ (Traversal.unentered_enter_lt _hn _h)

def visitAll (g : Graph) (t : Traversal) : List NodeId → t.Extension
  | [] => ⟨t, subset_rfl⟩
  | id :: ids =>
    let first := visit g t id
    let rest := visitAll g first.1 ids
    ⟨rest.1, first.2.trans rest.2⟩
termination_by ids => (t.unentered g, ids.length + 1)
decreasing_by
  · exact .right _ (Nat.succ_pos _)
  · exact Prod.Lex.right' _ (Traversal.unentered_le first) (Nat.lt_succ_self _)

end

def postorder (g : Graph) (root : NodeId) : List NodeId := (g.visit {} root).1.placed

variable {g : Graph} {t : Traversal} {id root : NodeId} {n : Node}

theorem visit_of_entered (h : id ∈ t.entered) : (g.visit t id).1 = t := by
  rw [visit, dif_pos h]

theorem visit_of_not_contains (h : ¬g.contains id) : (g.visit t id).1 = t := by
  rw [visit]
  split
  · rfl
  · split
    · rfl
    · next n hn => exact absurd (contains_of_node? hn) h

theorem visit_of_node? (hid : id ∉ t.entered) (hn : g.node? id = some n) :
    (g.visit t id).1 = (g.visitAll (t.enter id) n.targets).1.place id := by
  rw [visit, dif_neg hid]
  split
  · simp_all
  · next m hm =>
    cases hm.symm.trans hn
    rfl

@[simp] theorem visitAll_nil : (g.visitAll t []).1 = t := by
  rw [visitAll]

@[simp] theorem visitAll_cons (ids : List NodeId) :
    (g.visitAll t (id :: ids)).1 = (g.visitAll (g.visit t id).1 ids).1 := by
  rw [visitAll]

/-- What a walk still does, by recursion along its path: the rest of each node is visited and the
node is placed, from the innermost outwards. -/
def resume (g : Graph) : List Frame → Traversal → Traversal
  | [], t => t
  | f :: path, t => g.resume path ((g.visitAll t f.pending).1.place f.node)

end Graph

namespace Walk
variable {g : Graph} {w w' : Walk} {root : NodeId}

def traversal (w : Walk) : Traversal where
  entered := (w.inProgress.toList ++ w.done.toList).toFinset
  placed := w.placed.reverse

/-- The traversal in which a walk will end. -/
def outcome (g : Graph) (w : Walk) : Traversal := g.resume w.path w.traversal

@[simp] theorem mem_entered_traversal (w : Walk) (id : NodeId) :
    id ∈ w.traversal.entered ↔ w.entered id := by
  simp [traversal, entered]

theorem traversal_leave {id : NodeId} (h : w.entered id) (path : List Frame) :
    (w.leave id path).traversal = w.traversal.place id := by
  have hentered : (w.leave id path).traversal.entered = w.traversal.entered := by
    ext id'
    rw [mem_entered_traversal, mem_entered_traversal]
    constructor
    · intro h'
      by_cases hid : id = id'
      · exact hid ▸ h
      · simp_all [entered, leave]
    · exact w.entered_leave id path
  rw [Traversal.place, ← hentered]
  simp [traversal]

theorem traversal_enter (w : Walk) (id : NodeId) (edges : Array Edge) (path : List Frame) :
    (w.enter id edges path).traversal = w.traversal.enter id := by
  have hentered : (w.enter id edges path).traversal.entered = insert id w.traversal.entered := by
    ext id'
    rw [mem_entered_traversal, entered_enter, Finset.mem_insert, mem_entered_traversal,
      Bool.or_eq_true, decide_eq_true_iff, eq_comm]
  rw [Traversal.enter, ← hentered]
  rfl

/-- A step only does a part of what the walk has still to do. -/
theorem outcome_step (hv : w.Valid g root) (h : Step g w w') : w'.outcome g = w.outcome g := by
  cases h with
  | @leave f path hpath hpending =>
    have hentered : w.entered f.node := by
      rw [hv.entered_iff, onPath_of_path hpath]
      simp
    rw [outcome, outcome, hpath, Graph.resume, hpending, Graph.visitAll_nil,
      traversal_leave hentered]
    rfl
  | @skip f f' path target hpath hnode hpending hskip =>
    have hvisit : (g.visit w.traversal target).1 = w.traversal := by
      rcases hskip with hentered | hmissing
      · exact Graph.visit_of_entered ((w.mem_entered_traversal target).2 hentered)
      · exact Graph.visit_of_not_contains hmissing
    rw [outcome, outcome, hpath, Graph.resume, Graph.resume, hpending, Graph.visitAll_cons, hvisit,
      hnode]
    rfl
  | @enter f f' path target n hpath hnode hpending hnew htarget =>
    have hvisit : (g.visit w.traversal target).1 =
        (g.visitAll (w.traversal.enter target) n.targets).1.place target :=
      Graph.visit_of_node? (by simpa using hnew) htarget
    have hresume : (w.enter target n.edges (f' :: path)).outcome g =
        g.resume (f' :: path) ((g.visitAll (w.traversal.enter target) n.targets).1.place target) := by
      rw [outcome, traversal_enter, ← Frame.pending_enter target n]
      rfl
    rw [hresume, outcome, hpath, Graph.resume, Graph.resume, hpending, Graph.visitAll_cons, hvisit,
      hnode]

theorem outcome_reaches (hv : w.Valid g root) (h : w.Reaches g w') :
    w'.outcome g = w.outcome g :=
  hv.keeps h (p := fun w' => w'.outcome g = w.outcome g)
    (fun hv h hstep => (outcome_step hv hstep).trans h) rfl

theorem traversal_run (hv : w.Valid g root) : (w.run g).traversal = w.outcome g := by
  rw [← outcome_reaches hv (reaches_run g w), outcome, path_run, Graph.resume]

theorem outcome_start {n : Node} (hn : g.node? root = some n) :
    (start root n.edges).outcome g = (g.visit {} root).1 := by
  have hstart : (start root n.edges).traversal = ({} : Traversal).enter root := by
    have hentered : (start root n.edges).traversal.entered = {root} := by
      ext id
      simp [start, entered, eq_comm (a := id)]
    rw [Traversal.enter, insert_empty_eq, ← hentered]
    rfl
  rw [Graph.visit_of_node? (by simp) hn, outcome, hstart, ← Frame.pending_enter root n]
  rfl

theorem placed_run {n : Node} (hn : g.node? root = some n) :
    ((start root n.edges).run g).placed.reverse = g.postorder root := by
  rw [Graph.postorder, ← outcome_start hn, ← traversal_run (valid_start hn)]
  rfl

end Walk

namespace Graph

theorem sort_eq_ite (g : Graph) (root : NodeId) (order : SortOrder) :
    g.sort root order =
      if order = .consumerFirst then (g.postorder root).reverse else g.postorder root := by
  cases hn : g.node? root with
  | none =>
    have hmissing := node?_eq_none_iff.1 hn
    simp [sort_of_not_contains hmissing, postorder, visit_of_not_contains hmissing]
  | some n =>
    rw [sort_of_node? hn, ← Walk.placed_run hn, List.reverse_reverse]

/-- A sort is the postorder of the recursive visit; consumers come first in its exact reverse, and
an unknown root leads nowhere. -/
theorem sort_eq_postorder (g : Graph) (root : NodeId) :
    g.sort root .dependencyFirst = g.postorder root ∧
      g.sort root .default = g.postorder root ∧
      g.sort root .consumerFirst = (g.postorder root).reverse ∧
      (¬g.contains root → ∀ order, g.sort root order = []) :=
  ⟨sort_eq_ite g root .dependencyFirst, sort_eq_ite g root .default,
    sort_eq_ite g root .consumerFirst, sort_of_not_contains⟩

end Graph

end ArtifactResolution
