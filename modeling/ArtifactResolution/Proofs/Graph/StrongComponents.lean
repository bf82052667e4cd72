import ArtifactResolution.Proofs.Graph.SortedNodes
import Mathlib.Data.Set.Basic

namespace ArtifactResolution
set_option autoImplicit false

open Relation

def IsLastOf (C : Set NodeId) (a : NodeId) (l : List NodeId) : Prop :=
  a ∈ C ∧ ∃ before after, l = before ++ a :: after ∧ ∀ c ∈ after, c ∉ C

def IsFirstOf (C : Set NodeId) (a : NodeId) (l : List NodeId) : Prop :=
  a ∈ C ∧ ∃ before after, l = before ++ a :: after ∧ ∀ c ∈ before, c ∉ C

theorem isFirstOf_reverse {C : Set NodeId} {a : NodeId} {l : List NodeId} :
    IsFirstOf C a l.reverse ↔ IsLastOf C a l := by
  constructor
  · rintro ⟨ha, before, after, hl, hbefore⟩
    refine ⟨ha, after.reverse, before.reverse, ?_, by simpa using hbefore⟩
    rw [← l.reverse_reverse, hl]
    simp
  · rintro ⟨ha, before, after, rfl, hafter⟩
    exact ⟨ha, after.reverse, before.reverse, by simp, by simpa using hafter⟩

theorem exists_isFirstOf {C : Set NodeId} {l : List NodeId} (h : ∃ a ∈ l, a ∈ C) :
    ∃ a, IsFirstOf C a l := by
  classical
  have hfound : (l.find? (decide <| · ∈ C)).isSome := by simpa using h
  obtain ⟨a, ha⟩ := Option.isSome_iff_exists.1 hfound
  obtain ⟨haC, before, after, hsplit, hbefore⟩ := List.find?_eq_some_iff_append.1 ha
  exact ⟨a, of_decide_eq_true haC, before, after, hsplit, by simpa using hbefore⟩

theorem precedes_of_mem_left {a b : NodeId} {l₁ l₂ : List NodeId} (h : (l₁ ++ b :: l₂).Nodup)
    (ha : a ∈ l₁) :
    Precedes a b (l₁ ++ b :: l₂) ∧ Precedes b a (l₁ ++ b :: l₂).reverse := by
  have hreverse := List.nodup_reverse.2 h
  rw [List.reverse_append] at hreverse ⊢
  exact ⟨precedes_append h ha List.mem_cons_self,
    precedes_append hreverse (by simp) (List.mem_reverse.2 ha)⟩

namespace Graph
variable {g : Graph} {root a b : NodeId} {C D : Set NodeId}

/-- A greatest set of nodes, all reachable from the root, of which each leads to each other. -/
structure IsStrongComponent (g : Graph) (root : NodeId) (C : Set NodeId) : Prop where
  nonempty : C.Nonempty
  reachable : ∀ a ∈ C, g.contains root ∧ g.Reachable root a
  connected : ∀ a ∈ C, ∀ b ∈ C, g.Reachable a b
  greatest : ∀ a ∈ C, ∀ b, g.Reachable a b → g.Reachable b a → b ∈ C

def component (g : Graph) (a : NodeId) : Set NodeId := {b | g.Reachable a b ∧ g.Reachable b a}

theorem isStrongComponent_component (hroot : g.contains root) (ha : g.Reachable root a) :
    g.IsStrongComponent root (g.component a) where
  nonempty := ⟨a, .refl, .refl⟩
  reachable _ hb := ⟨hroot, ha.trans hb.1⟩
  connected _ hb _ hc := hb.2.trans hc.1
  greatest _ hb _ hbc hcb := ⟨hb.1.trans hbc, hcb.trans hb.2⟩

theorem IsStrongComponent.eq_of_mem (hC : g.IsStrongComponent root C)
    (hD : g.IsStrongComponent root D) (haC : a ∈ C) (haD : a ∈ D) : C = D := by
  ext b
  constructor
  · intro hb
    exact hD.greatest a haD b (hC.connected a haC b hb) (hC.connected b hb a haC)
  · intro hb
    exact hC.greatest a haC b (hD.connected a haD b hb) (hD.connected b hb a haD)

/-- In a list with the node placed last in front, each node has before it all that it leads to,
unless a node of its own component is not placed yet. -/
def Sealed (g : Graph) : List NodeId → Prop
  | [] => True
  | a :: earlier => g.Sealed earlier ∧
      ∀ b, g.Reachable a b → b ∈ a :: earlier ∨ ∃ c ∈ g.component a, c ∉ a :: earlier

theorem Sealed.of_append {later earlier : List NodeId} (h : g.Sealed (later ++ a :: earlier))
    (hab : g.Reachable a b) : b ∈ a :: earlier ∨ ∃ c ∈ g.component a, c ∉ a :: earlier := by
  induction later with
  | nil => exact h.2 b hab
  | cons c later ih => exact ih h.1

end Graph

namespace Walk
variable {g : Graph} {w w' : Walk} {root a b : NodeId}

/-- What a placed node leads to is placed, or lies behind a node of the path. -/
theorem Valid.placed_or_behind_path (hv : w.Valid g root) (ha : a ∈ w.placed)
    (hab : g.Reachable a b) : b ∈ w.placed ∨ ∃ c ∈ w.onPath, g.Reachable a c := by
  induction hab with
  | refl => exact .inl ha
  | @tail b c hab hbc ih =>
    rcases ih with hb | hpath
    · have hentered := (hv.entered_iff c).1 (hv.entered_of_adj hb hbc)
      rcases List.mem_append.1 hentered with hc | hc
      · exact .inr ⟨c, hc, hab.tail hbc⟩
      · exact .inl hc
    · exact .inr hpath

/-- The nodes that are still on the path when a node is left all lead to it. -/
theorem Valid.sealed_leave (hv : w.Valid g root) (hsealed : g.Sealed w.placed) {f : Frame}
    {path : List Frame} (hpath : w.path = f :: path) (hpending : f.pending = []) :
    g.Sealed (w.leave f.node path).placed := by
  have hv' := hv.leave hpath hpending
  refine ⟨hsealed, fun b hb => ?_⟩
  rcases hv'.placed_or_behind_path List.mem_cons_self hb with hplaced | ⟨c, hc, hfc⟩
  · exact .inl hplaced
  · have hcf : g.Reachable c f.node := by
      have hchain := hv.chain
      rw [onPath_of_path hpath] at hchain
      exact reachable_of_chain hchain (List.mem_cons_of_mem _ hc)
    have hfresh : c ∉ f.node :: w.placed := (List.disjoint_of_nodup_append hv'.nodup) hc
    exact .inr ⟨c, ⟨hfc, hcf⟩, hfresh⟩

theorem Valid.sealed_step (hv : w.Valid g root) (hsealed : g.Sealed w.placed)
    (h : Step g w w') : g.Sealed w'.placed := by
  cases h with
  | leave hpath hpending => exact hv.sealed_leave hsealed hpath hpending
  | skip => exact hsealed
  | enter => exact hsealed

theorem Reaches.sealed {n : Node} (hn : g.node? root = some n)
    (h : (start root n.edges).Reaches g w) : g.Sealed w.placed :=
  (valid_start hn).keeps h Valid.sealed_step trivial

end Walk

namespace Graph
variable {g : Graph} {root a b last : NodeId} {C D : Set NodeId}

theorem sealed_sort (g : Graph) (root : NodeId) :
    g.Sealed (g.sort root .dependencyFirst).reverse := by
  by_cases h : g.contains root
  · obtain ⟨n, last, hn, hreaches, _, hsort⟩ := exists_last h
    rw [hsort, if_neg SortOrder.noConfusion, List.reverse_reverse]
    exact hreaches.sealed hn
  · rw [sort_of_not_contains h]
    trivial

theorem IsStrongComponent.mem_sort (hC : g.IsStrongComponent root C) (ha : a ∈ C)
    (order : SortOrder) : a ∈ g.sort root order :=
  mem_sort_iff.2 (hC.reachable a ha)

/-- When the last node of a component is placed, nothing that it leads to is still missing. -/
theorem IsStrongComponent.placed_before_last (hC : g.IsStrongComponent root C)
    {before after : List NodeId}
    (hsplit : g.sort root .dependencyFirst = before ++ last :: after) (hlast : last ∈ C)
    (hafter : ∀ c ∈ after, c ∉ C) (hb : g.Reachable last b) (hbC : b ∉ C) : b ∈ before := by
  have hsealed := sealed_sort g root
  rw [hsplit, List.reverse_append, List.reverse_cons, List.append_assoc, List.singleton_append]
    at hsealed
  have hne : b ≠ last := fun h => hbC (h ▸ hlast)
  rcases hsealed.of_append hb with hplaced | ⟨c, hc, hmissing⟩
  · simpa [hne] using hplaced
  · -- A node of the component that is still missing would be placed behind its last one.
    have hcC : c ∈ C := hC.greatest last hlast c hc.1 hc.2
    have hsorted := hC.mem_sort hcC .dependencyFirst
    have hcafter : c ∈ after := by
      rw [hsplit] at hsorted
      simp only [List.mem_cons, List.mem_reverse, List.mem_append] at hsorted hmissing
      grind
    exact absurd hcC (hafter c hcafter)

theorem IsStrongComponent.precedes_last (hC : g.IsStrongComponent root C)
    (hlast : IsLastOf C last (g.sort root .dependencyFirst)) (hb : g.Reachable last b)
    (hbC : b ∉ C) :
    Precedes b last (g.sort root .dependencyFirst) ∧
      Precedes last b (g.sort root .consumerFirst) := by
  obtain ⟨hmem, before, after, hsplit, hafter⟩ := hlast
  have hbefore := hC.placed_before_last hsplit hmem hafter hb hbC
  have hnodup := nodup_sort g root .dependencyFirst
  rw [sort_consumerFirst]
  rw [hsplit] at hnodup ⊢
  exact precedes_of_mem_left hnodup hbefore

/-- Of two components the one that leads to the other is finished later: its last node stands behind
every node of the other; when consumers come first, its first node stands before them. -/
theorem sort_component_order (hC : g.IsStrongComponent root C) (hD : g.IsStrongComponent root D)
    (hne : C ≠ D) (hpath : ∃ a ∈ C, ∃ b ∈ D, g.Reachable a b) :
    ((∃ last, IsLastOf C last (g.sort root .dependencyFirst)) ∧
      ∀ last, IsLastOf C last (g.sort root .dependencyFirst) →
        ∀ d ∈ D, Precedes d last (g.sort root .dependencyFirst)) ∧
    ((∃ first, IsFirstOf C first (g.sort root .consumerFirst)) ∧
      ∀ first, IsFirstOf C first (g.sort root .consumerFirst) →
        ∀ d ∈ D, Precedes first d (g.sort root .consumerFirst)) := by
  have hfirst (a : NodeId) : IsFirstOf C a (g.sort root .consumerFirst) ↔
      IsLastOf C a (g.sort root .dependencyFirst) := by
    rw [sort_consumerFirst, isFirstOf_reverse]
  have hexists : ∃ first, IsFirstOf C first (g.sort root .consumerFirst) := by
    obtain ⟨a, ha⟩ := hC.nonempty
    exact exists_isFirstOf ⟨a, hC.mem_sort ha .consumerFirst, ha⟩
  have horder (last : NodeId) (hlast : IsLastOf C last (g.sort root .dependencyFirst))
      (d : NodeId) (hd : d ∈ D) : Precedes d last (g.sort root .dependencyFirst) ∧
        Precedes last d (g.sort root .consumerFirst) := by
    obtain ⟨a, ha, b, hb, hab⟩ := hpath
    have hreach : g.Reachable last d :=
      ((hC.connected last hlast.1 a ha).trans hab).trans (hD.connected b hb d hd)
    exact hC.precedes_last hlast hreach fun hdC => hne (hC.eq_of_mem hD hdC hd)
  simp only [hfirst] at hexists ⊢
  exact ⟨⟨hexists, fun last hlast d hd => (horder last hlast d hd).1⟩,
    ⟨hexists, fun first hlast d hd => (horder first hlast d hd).2⟩⟩

/-- Nodes 1 and 2 lead to each other, and so do nodes 3 and 4; node 1 also leads to node 3. A walk
from node 1 places node 2 before nodes 3 and 4, although node 2 leads to them. -/
def rings : Graph :=
  let node (id : UInt64) (edges : Array Edge) : Node :=
    ⟨⟨id⟩, .module "org.example" "lib" "1.0", ⟨"default", .external⟩, edges⟩
  let nodes := [node 1 #[⟨#[⟨2⟩, ⟨3⟩]⟩], node 2 #[⟨#[⟨1⟩]⟩], node 3 #[⟨#[⟨4⟩]⟩], node 4 #[⟨#[⟨3⟩]⟩]]
  (ofNodes nodes).toOption.getD ∅

theorem adj_rings : rings.Adj ⟨1⟩ ⟨3⟩ := (adj_iff rfl).2 (by decide)

theorem not_reachable_rings : ¬rings.Reachable ⟨3⟩ ⟨1⟩ := by
  intro h
  have hmem : (⟨1⟩ : NodeId) ∈ ([⟨3⟩, ⟨4⟩] : List NodeId) := h.mem_of_closed (by decide) (by decide)
  simp at hmem

theorem sort_component_order_rings :
    let C := rings.component ⟨1⟩
    let D := rings.component ⟨3⟩
    (rings.IsStrongComponent ⟨1⟩ C ∧ rings.IsStrongComponent ⟨1⟩ D ∧ C ≠ D ∧
      ∃ a ∈ C, ∃ b ∈ D, rings.Reachable a b) ∧
    ∃ last, IsLastOf C last (rings.sort ⟨1⟩ .dependencyFirst) ∧
      ∀ d ∈ D, Precedes d last (rings.sort ⟨1⟩ .dependencyFirst) := by
  intro C D
  have hroot : rings.contains ⟨1⟩ := by decide
  have hreach : rings.Reachable ⟨1⟩ ⟨3⟩ := .single adj_rings
  have hC : rings.IsStrongComponent ⟨1⟩ C := isStrongComponent_component hroot .refl
  have hD : rings.IsStrongComponent ⟨1⟩ D := isStrongComponent_component hroot hreach
  have hpath : ∃ a ∈ C, ∃ b ∈ D, rings.Reachable a b :=
    ⟨⟨1⟩, ⟨.refl, .refl⟩, ⟨3⟩, ⟨.refl, .refl⟩, hreach⟩
  have hne : C ≠ D := by
    intro h
    have hmem : ⟨1⟩ ∈ D := h ▸ ⟨.refl, .refl⟩
    exact not_reachable_rings hmem.1
  obtain ⟨⟨last, hlast⟩, horder⟩ := (sort_component_order hC hD hne hpath).1
  exact ⟨⟨hC, hD, hne, hpath⟩, last, hlast, horder last hlast⟩

end Graph

end ArtifactResolution
