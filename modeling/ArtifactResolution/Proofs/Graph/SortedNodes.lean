import ArtifactResolution.Proofs.Graph.Postorder

namespace ArtifactResolution
set_option autoImplicit false

open Relation

/-- Both nodes are listed, the first strictly before the second. -/
def Precedes (a b : NodeId) (l : List NodeId) : Prop := b ∈ l ∧ l.idxOf a < l.idxOf b

theorem precedes_append {a b : NodeId} {l₁ l₂ : List NodeId} (h : (l₁ ++ l₂).Nodup) (ha : a ∈ l₁)
    (hb : b ∈ l₂) : Precedes a b (l₁ ++ l₂) := by
  have hnot : b ∉ l₁ := fun hb' => (List.disjoint_of_nodup_append h) hb' hb
  refine ⟨List.mem_append_right l₁ hb, ?_⟩
  rw [List.idxOf_append_of_mem ha, List.idxOf_append_of_notMem hnot]
  exact Nat.lt_add_right _ (List.idxOf_lt_length_of_mem ha)

namespace Walk
variable {g : Graph} {w : Walk} {root a b : NodeId}

theorem Settled.of_append {later earlier : List NodeId}
    (h : w.Settled g (later ++ a :: earlier)) (hab : g.Adj a b) :
    w.entered b ∧ (b ∈ earlier ∨ g.Reachable b a) := by
  induction later with
  | nil => exact h.2 b hab
  | cons c later ih => exact ih h.1

theorem Valid.entered_of_adj (hv : w.Valid g root) (ha : a ∈ w.placed) (hab : g.Adj a b) :
    w.entered b := by
  obtain ⟨later, earlier, hsplit⟩ := List.append_of_mem ha
  have hsettled := hv.settled
  rw [hsplit] at hsettled
  exact (hsettled.of_append hab).1

theorem Valid.getLast?_placed (hv : w.Valid g root) (hend : w.step g = none) :
    w.placed.reverse.getLast? = some root := by
  have hlast := hv.root_last
  rwa [onPath, path_of_step_none hend, List.map_nil, List.append_nil] at hlast

theorem Valid.mem_placed_of_entered (hv : w.Valid g root) (hend : w.step g = none)
    (hb : w.entered b) : b ∈ w.placed := by
  have hmem := (hv.entered_iff b).1 hb
  rwa [onPath, path_of_step_none hend] at hmem

theorem Valid.mem_placed_iff (hv : w.Valid g root) (hend : w.step g = none) :
    a ∈ w.placed ↔ g.Reachable root a := by
  constructor
  · intro ha
    exact hv.reachable a (List.mem_append_right _ ha)
  · intro ha
    induction ha with
    | refl => exact List.mem_reverse.1 (List.mem_of_getLast? (hv.getLast?_placed hend))
    | tail _ hadj ih => exact hv.mem_placed_of_entered hend (hv.entered_of_adj ih hadj)

end Walk

namespace Graph
variable {g : Graph} {root a b id : NodeId}

theorem exists_last (h : g.contains root) :
    ∃ n last, g.node? root = some n ∧ (Walk.start root n.edges).Reaches g last ∧
      last.step g = none ∧ ∀ order, g.sort root order =
        if order = .consumerFirst then last.placed else last.placed.reverse := by
  rw [contains_eq_isSome] at h
  obtain ⟨n, hn⟩ := Option.isSome_iff_exists.1 h
  exact ⟨n, _, hn, Walk.reaches_run g _, Walk.step_run g _, sort_of_node? hn⟩

theorem nodup_sort (g : Graph) (root : NodeId) (order : SortOrder) :
    (g.sort root order).Nodup := by
  by_cases h : g.contains root
  · obtain ⟨n, last, hn, hreaches, _, hsort⟩ := exists_last h
    have hnodup : last.placed.Nodup := (List.nodup_append.1 (hreaches.valid hn).nodup).2.1
    rw [hsort]
    split
    · exact hnodup
    · exact List.nodup_reverse.2 hnodup
  · rw [sort_of_not_contains h]
    exact List.nodup_nil

theorem mem_sort_iff {order : SortOrder} :
    id ∈ g.sort root order ↔ g.contains root ∧ g.Reachable root id := by
  by_cases h : g.contains root
  · obtain ⟨n, last, hn, hreaches, hend, hsort⟩ := exists_last h
    rw [hsort, ← (hreaches.valid hn).mem_placed_iff hend]
    split <;> simp [h]
  · simp [sort_of_not_contains h, h]

theorem exists_split_sort (ha : a ∈ g.sort root .dependencyFirst) (hab : g.Adj a b) :
    ∃ earlier later, g.sort root .dependencyFirst = earlier ++ a :: later ∧
      (b ∈ earlier ∨ g.Reachable b a) := by
  have hroot := (mem_sort_iff.1 ha).1
  obtain ⟨n, last, hn, hreaches, _, hsort⟩ := exists_last hroot
  rw [hsort, if_neg SortOrder.noConfusion] at ha ⊢
  obtain ⟨later, earlier, hsplit⟩ := List.append_of_mem (List.mem_reverse.1 ha)
  have hsettled := (hreaches.valid hn).settled
  rw [hsplit] at hsettled
  refine ⟨earlier.reverse, later.reverse, by simp [hsplit], ?_⟩
  rw [List.mem_reverse]
  exact (hsettled.of_append hab).2

theorem exists_split_of_adj (ha : a ∈ g.sort root .dependencyFirst) (hab : g.Adj a b)
    (hback : ¬g.Reachable b a) :
    ∃ before between after,
      g.sort root .dependencyFirst = before ++ b :: between ++ a :: after := by
  obtain ⟨earlier, later, hsplit, horder⟩ := exists_split_sort ha hab
  obtain ⟨before, between, rfl⟩ := List.append_of_mem (horder.resolve_right hback)
  exact ⟨before, between, later, hsplit⟩

theorem sort_consumerFirst (g : Graph) (root : NodeId) :
    g.sort root .consumerFirst = (g.sort root .dependencyFirst).reverse := by
  rw [sort_eq_ite, sort_eq_ite, if_pos rfl, if_neg SortOrder.noConfusion]

/-- A node stands on the proper side of each node it leads to, unless that node leads back to it;
without cycles it always does. -/
theorem sort_dependency_order (ha : a ∈ g.sort root .dependencyFirst) (hab : g.Adj a b) :
    (∀ order, b ∈ g.sort root order) ∧
      (Precedes b a (g.sort root .dependencyFirst) ∧ Precedes a b (g.sort root .consumerFirst) ∨
        g.Reachable b a) ∧
      ((∀ id, g.Reachable root id → ¬TransGen g.Adj id id) →
        Precedes b a (g.sort root .dependencyFirst) ∧
          Precedes a b (g.sort root .consumerFirst)) := by
  obtain ⟨hroot, hreach⟩ := mem_sort_iff.1 ha
  have horder : Precedes b a (g.sort root .dependencyFirst) ∧
      Precedes a b (g.sort root .consumerFirst) ∨ g.Reachable b a := by
    obtain ⟨earlier, later, hsplit, hb | hback⟩ := exists_split_sort ha hab
    · have hnodup := nodup_sort g root .dependencyFirst
      have hnodup' := nodup_sort g root .consumerFirst
      rw [sort_consumerFirst, hsplit, List.reverse_append, List.reverse_cons] at hnodup' ⊢
      rw [hsplit] at hnodup
      exact .inl ⟨precedes_append hnodup hb List.mem_cons_self,
        precedes_append hnodup' (by simp) (by simpa using hb)⟩
    · exact .inr hback
  refine ⟨fun _ => mem_sort_iff.2 ⟨hroot, hreach.tail hab⟩, horder, fun hacyclic => ?_⟩
  rcases horder with horder | hback
  · exact horder
  · exact absurd (.head' hab hback) (hacyclic a hreach)

/-- Node 1 leads to itself, to node 2 and to the missing node 9, and node 2 leads back to node 1. -/
def loops : Graph :=
  let node (id : UInt64) (edges : Array Edge) : Node :=
    ⟨⟨id⟩, .module "org.example" "lib" "1.0", ⟨"default", .external⟩, edges⟩
  let nodes := [node 1 #[⟨#[⟨1⟩, ⟨2⟩]⟩, ⟨#[⟨9⟩]⟩], node 2 #[⟨#[⟨1⟩]⟩]]
  (ofNodes nodes).toOption.getD ∅

theorem adj_loops : loops.Adj ⟨1⟩ ⟨2⟩ ∧ loops.Adj ⟨2⟩ ⟨1⟩ :=
  ⟨(adj_iff rfl).2 (by decide), (adj_iff rfl).2 (by decide)⟩

theorem sort_dependency_order_loops :
    let sorted := loops.sort ⟨1⟩ .dependencyFirst
    (⟨2⟩ ∈ sorted ∧ loops.Adj ⟨2⟩ ⟨1⟩) ∧ (∀ order, ⟨1⟩ ∈ loops.sort ⟨1⟩ order) ∧
      (Precedes ⟨1⟩ ⟨2⟩ sorted ∧ Precedes ⟨2⟩ ⟨1⟩ (loops.sort ⟨1⟩ .consumerFirst) ∨
        loops.Reachable ⟨1⟩ ⟨2⟩) := by
  have hmem : ⟨2⟩ ∈ loops.sort ⟨1⟩ .dependencyFirst :=
    mem_sort_iff.2 ⟨by decide, .single adj_loops.1⟩
  have horder := sort_dependency_order hmem adj_loops.2
  exact ⟨⟨hmem, adj_loops.2⟩, horder.1, horder.2.1⟩

/-- The walk of a sort ends, and in every order it lists exactly the nodes that are reachable from
the root, each once; the root is the last of them, or the first when consumers come first. -/
theorem sort_lists_reachable (hroot : g.contains root) :
    (∃ n last, g.node? root = some n ∧ (Walk.start root n.edges).Reaches g last ∧
      last.step g = none ∧ ∀ order, g.sort root order =
        if order = .consumerFirst then last.placed else last.placed.reverse) ∧
      (∀ order, (g.sort root order).Nodup ∧
        ∀ id, (id ∈ g.sort root order ↔ g.Reachable root id) ∧
          (id ∈ g.sort root order → g.contains id)) ∧
      (g.sort root .dependencyFirst).getLast? = some root ∧
      (g.sort root .consumerFirst).head? = some root := by
  obtain ⟨n, last, hn, hreaches, hend, hsort⟩ := exists_last hroot
  have hlast : (g.sort root .dependencyFirst).getLast? = some root := by
    rw [hsort, if_neg SortOrder.noConfusion, (hreaches.valid hn).getLast?_placed hend]
  refine ⟨⟨n, last, hn, hreaches, hend, hsort⟩, fun order => ⟨nodup_sort g root order, ?_⟩, hlast,
    by rw [sort_consumerFirst, List.head?_reverse, hlast]⟩
  intro id
  have hmem : id ∈ g.sort root order ↔ g.Reachable root id := by simp [mem_sort_iff, hroot]
  exact ⟨hmem, fun h => (hmem.1 h).contains hroot⟩

theorem sort_lists_reachable_loops :
    loops.contains ⟨1⟩ ∧ (loops.sort ⟨1⟩ .dependencyFirst).getLast? = some ⟨1⟩ ∧
      ∀ id, id ∈ loops.sort ⟨1⟩ .dependencyFirst ↔ loops.Reachable ⟨1⟩ id := by
  have hroot : loops.contains ⟨1⟩ := by decide
  obtain ⟨_, hmem, hlast, _⟩ := sort_lists_reachable hroot
  exact ⟨hroot, hlast, fun id => ((hmem .dependencyFirst).2 id).1⟩

end Graph

end ArtifactResolution
