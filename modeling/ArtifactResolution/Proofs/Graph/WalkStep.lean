import ArtifactResolution.Graph.Sort
import ArtifactResolution.Proofs.Graph.Reachability

namespace ArtifactResolution
set_option autoImplicit false

open Relation

namespace Walk

/-- The steps of a walk: the innermost node is left, it gives a target that is skipped, or the walk
enters that target. -/
inductive Step (g : Graph) : Walk → Walk → Prop
  | leave {w : Walk} {f : Frame} {path : List Frame} (hpath : w.path = f :: path)
      (hpending : f.pending = []) : Step g w (w.leave f.node path)
  | skip {w : Walk} {f f' : Frame} {path : List Frame} {target : NodeId}
      (hpath : w.path = f :: path) (hnode : f'.node = f.node)
      (hpending : f.pending = target :: f'.pending)
      (hskip : w.entered target ∨ ¬g.contains target) :
      Step g w { w with path := f' :: path }
  | enter {w : Walk} {f f' : Frame} {path : List Frame} {target : NodeId} {n : Node}
      (hpath : w.path = f :: path) (hnode : f'.node = f.node)
      (hpending : f.pending = target :: f'.pending)
      (hnew : ¬w.entered target) (htarget : g.node? target = some n) :
      Step g w (w.enter target n.edges (f' :: path))

abbrev Reaches (g : Graph) : Walk → Walk → Prop := ReflTransGen fun w w' => w.step g = some w'

variable {g : Graph} {w w' : Walk}

theorem node_of_next {f f' : Frame} {target : NodeId} (h : f.next = (some target, f')) :
    f'.node = f.node := by
  rw [← f.node_next, h]

theorem Step.of_step (h : w.step g = some w') : Step g w w' := by
  rw [step] at h
  split at h
  · cases h
  · next f path hpath =>
    split at h
    · next hf =>
      cases h
      exact .leave hpath (Frame.pending_of_next_none hf)
    · next target f' hf =>
      have hnode := node_of_next hf
      have hpending := Frame.pending_of_next hf
      split at h
      · next hentered =>
        cases h
        exact .skip hpath hnode hpending (.inl hentered)
      · next hnew =>
        split at h
        · next hmissing =>
          cases h
          exact .skip hpath hnode hpending (.inr (Graph.node?_eq_none_iff.1 hmissing))
        · next n htarget =>
          cases h
          exact .enter hpath hnode hpending hnew htarget

theorem path_of_step_none (h : w.step g = none) : w.path = [] := by
  rw [step] at h
  split at h
  · assumption
  · split at h
    · cases h
    · split at h
      · cases h
      · split at h <;> cases h

theorem reaches_run (g : Graph) (w : Walk) : w.Reaches g (w.run g) := by
  induction w using run.induct (g := g) with
  | case1 w h =>
    rw [run, h]
  | case2 w w' h ih =>
    rw [run, h]
    exact .head h ih

theorem step_run (g : Graph) (w : Walk) : (w.run g).step g = none := by
  induction w using run.induct (g := g) with
  | case1 w h =>
    rw [run, h]
    exact h
  | case2 w w' h ih =>
    rw [run, h]
    exact ih

@[simp] theorem path_run (g : Graph) (w : Walk) : (w.run g).path = [] :=
  path_of_step_none (step_run g w)

theorem Reaches.keeps {p : Walk → Prop} (hp : ∀ {w w'}, p w → Step g w w' → p w')
    (h : w.Reaches g w') (hw : p w) : p w' := by
  induction h with
  | refl => exact hw
  | tail _ h ih => exact hp ih (.of_step h)

end Walk

theorem Graph.sort_of_node? {g : Graph} {root : NodeId} {n : Node} (h : g.node? root = some n)
    (order : SortOrder) : g.sort root order =
      if order = .consumerFirst then ((Walk.start root n.edges).run g).placed
      else ((Walk.start root n.edges).run g).placed.reverse := by
  rw [sort, h]

theorem Graph.sort_of_not_contains {g : Graph} {root : NodeId} (h : ¬g.contains root)
    (order : SortOrder) : g.sort root order = [] := by
  rw [sort, node?_eq_none_iff.2 h]

end ArtifactResolution
