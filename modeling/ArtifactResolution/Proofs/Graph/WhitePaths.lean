import ArtifactResolution.Proofs.Graph.StrongComponents

namespace ArtifactResolution
set_option autoImplicit false

open Relation

/-- A path leads from the first node to the second, and no node of it is avoided. -/
def Graph.ReachableAvoiding (g : Graph) (avoided : NodeId → Prop) (a b : NodeId) : Prop :=
  ¬avoided a ∧ ReflTransGen (fun a b => g.Adj a b ∧ ¬avoided b) a b

namespace Walk
variable {g : Graph} {root id a : NodeId} {before w w' last : Walk}

def InSort (g : Graph) (root : NodeId) (w : Walk) : Prop :=
  ∃ n, g.node? root = some n ∧ (start root n.edges).Reaches g w

def unstarted : Walk := ⟨[], ∅, ∅, []⟩

/-- The first walk becomes the second by putting a node on top of its path: the root at the start,
and any other node by a step. -/
inductive Enters (g : Graph) (root : NodeId) : NodeId → Walk → Walk → Prop
  | root {n : Node} (hn : g.node? root = some n) : Enters g root root unstarted (start root n.edges)
  | step {id : NodeId} {w w' : Walk} (hw : w.InSort g root) (hstep : w.step g = some w')
      (hpath : w'.onPath = id :: w.onPath) : Enters g root id w w'

/-- A step takes a node from the top of the path. -/
def Leaves (g : Graph) (id : NodeId) (w w' : Walk) : Prop :=
  w.step g = some w' ∧ w.onPath = id :: w'.onPath

theorem InSort.valid (h : w.InSort g root) : w.Valid g root := by
  obtain ⟨n, hn, hreaches⟩ := h
  exact hreaches.valid hn

theorem run_of_reaches (h : w.Reaches g w') : w.run g = w'.run g := by
  induction h with
  | refl => rfl
  | tail _ hstep ih =>
    rw [ih, run]
    split
    · next hnone => simp [hnone] at hstep
    · next hsome => rw [Option.some.inj (hsome.symm.trans hstep)]

theorem Step.moves (h : Step g w w') :
    (∃ id, w.onPath = id :: w'.onPath ∧ w'.placed = id :: w.placed) ∨
      (w'.onPath = w.onPath ∧ w'.placed = w.placed) ∨
      ∃ id, w'.onPath = id :: w.onPath ∧ w'.placed = w.placed := by
  cases h with
  | @leave f path hpath _ => exact .inl ⟨f.node, onPath_of_path hpath, rfl⟩
  | skip hpath hnode _ _ => exact .inr (.inl ⟨onPath_advance hpath hnode, rfl⟩)
  | @enter f f' path target n hpath hnode _ _ _ =>
    refine .inr (.inr ⟨target, ?_, rfl⟩)
    rw [onPath_enter, onPath_advance hpath hnode]

theorem Step.placed_of_enters (h : Step g w w') (hpath : w'.onPath = id :: w.onPath) :
    w'.placed = w.placed := by
  rcases h.moves with ⟨top, hleft, _⟩ | ⟨_, hplaced⟩ | ⟨_, _, hplaced⟩
  · have hlength := congrArg List.length hpath
    simp only [hleft, List.length_cons] at hlength
    omega
  · exact hplaced
  · exact hplaced

theorem Step.placed_of_leaves (h : Step g w w') (hpath : w.onPath = id :: w'.onPath) :
    w'.placed = id :: w.placed := by
  have hlength := congrArg List.length hpath
  rcases h.moves with ⟨top, hleft, hplaced⟩ | ⟨hsame, _⟩ | ⟨top, hentered, _⟩
  · rw [hplaced, (List.cons.inj (hleft.symm.trans hpath)).1]
  · simp [hsame] at hlength
  · simp only [hentered, List.length_cons] at hlength
    omega

theorem Step.leaves_of_placed (h : Step g w w') (hw : id ∉ w.placed) (hw' : id ∈ w'.placed) :
    w.onPath = id :: w'.onPath := by
  rcases h.moves with ⟨top, hleft, hplaced⟩ | ⟨_, hplaced⟩ | ⟨_, _, hplaced⟩
  · rw [hplaced] at hw'
    rw [hleft, (List.mem_cons.1 hw').resolve_right hw]
  · exact absurd (hplaced ▸ hw') hw
  · exact absurd (hplaced ▸ hw') hw

theorem Step.placed_suffix (h : Step g w w') : w.placed <:+ w'.placed := by
  rcases h.moves with ⟨top, _, hplaced⟩ | ⟨_, hplaced⟩ | ⟨_, _, hplaced⟩
  · exact hplaced ▸ List.suffix_cons top w.placed
  · exact hplaced ▸ List.suffix_rfl
  · exact hplaced ▸ List.suffix_rfl

theorem Reaches.placed_suffix (h : w.Reaches g w') : w.placed <:+ w'.placed :=
  h.keeps (p := fun w' => w.placed <:+ w'.placed) (fun h hstep => h.trans hstep.placed_suffix)
    List.suffix_rfl

theorem InSort.placed_prefix (h : w.InSort g root) :
    w.placed.reverse <+: g.sort root .dependencyFirst := by
  obtain ⟨n, hn, hreaches⟩ := h
  rw [Graph.sort_of_node? hn, if_neg SortOrder.noConfusion, run_of_reaches hreaches]
  exact List.reverse_prefix.2 (reaches_run g w).placed_suffix

theorem Reaches.exists_leaves (h : w.Reaches g last) (hw : id ∉ w.placed)
    (hlast : id ∈ last.placed) : ∃ w₁ w₂, w.Reaches g w₁ ∧ Leaves g id w₁ w₂ := by
  induction h with
  | refl => exact absurd hlast hw
  | @tail w₁ w₂ h hstep ih =>
    by_cases hw₁ : id ∈ w₁.placed
    · exact ih hw₁
    · exact ⟨w₁, w₂, h, hstep, (Step.of_step hstep).leaves_of_placed hw₁ hlast⟩

theorem Enters.valid (h : Enters g root id before w) : w.Valid g root := by
  cases h with
  | root hn => exact valid_start hn
  | step hw hstep _ => exact hw.valid.step (.of_step hstep)

theorem Enters.onPath_eq (h : Enters g root id before w) : w.onPath = id :: before.onPath := by
  cases h with
  | root hn => rfl
  | step _ _ hpath => exact hpath

theorem Enters.placed_eq (h : Enters g root id before w) : w.placed = before.placed := by
  cases h with
  | root hn => rfl
  | step _ hstep hpath => exact (Step.of_step hstep).placed_of_enters hpath

theorem Enters.entered_iff (h : Enters g root id before w) (a : NodeId) :
    before.entered a ↔ a ∈ before.onPath ++ before.placed := by
  cases h with
  | root hn => simp [unstarted, entered, onPath]
  | step hw _ _ => exact hw.valid.entered_iff a

theorem Enters.notMem (h : Enters g root id before w) : id ∉ before.onPath ++ before.placed := by
  have hnodup := h.valid.nodup
  rw [h.onPath_eq, h.placed_eq, List.cons_append] at hnodup
  exact (List.nodup_cons.1 hnodup).1

/-- The node is on the path, right above what was there before it, and what came on the path or was
placed since is reached from it along paths that avoid the nodes entered before. -/
def Inside (g : Graph) (before : Walk) (id : NodeId) (w : Walk) : Prop :=
  ∃ above since, w.onPath = above ++ id :: before.onPath ∧ w.placed = since ++ before.placed ∧
    ∀ a ∈ above ++ id :: since, g.ReachableAvoiding (before.entered ·) id a

theorem Enters.inside (h : Enters g root id before w) : Inside g before id w := by
  refine ⟨[], [], h.onPath_eq, h.placed_eq, ?_⟩
  intro a ha
  cases List.mem_singleton.1 ha
  exact ⟨mt (h.entered_iff id).1 h.notMem, .refl⟩

theorem Enters.inside_step (h : Enters g root id before w) {w₁ w₂ : Walk} (hv : w₁.Valid g root)
    (hinside : Inside g before id w₁) (hstep : Step g w₁ w₂) :
    Inside g before id w₂ ∨ id ∈ w₂.placed := by
  obtain ⟨above, since, hpath, hplaced, hreach⟩ := hinside
  cases hstep with
  | @leave f path hw₁ hpending =>
    rw [onPath_of_path hw₁] at hpath
    cases above with
    | nil =>
      obtain ⟨hid, _⟩ := List.cons.inj hpath
      exact .inr (hid ▸ List.mem_cons_self)
    | cons top above =>
      -- A node above leaves the path and is placed, so it stays among those that came since.
      obtain ⟨htop, hbelow⟩ := List.cons.inj hpath
      refine .inl ⟨above, f.node :: since, hbelow, by simp [hplaced], fun a ha => hreach a ?_⟩
      grind
  | @skip f f' path target hw₁ hnode hpending hskip =>
    exact .inl ⟨above, since, hpath ▸ onPath_advance hw₁ hnode, hplaced, hreach⟩
  | @enter f f' path target n hw₁ hnode hpending hnew htarget =>
    -- The new node is behind an edge of the innermost one, which the walk has not gone below.
    have htop : f.node ∈ above ++ id :: since := by
      rw [onPath_of_path hw₁] at hpath
      cases above with
      | nil => simp [(List.cons.inj hpath).1]
      | cons top above => simp [(List.cons.inj hpath).1]
    have hadj : g.Adj f.node target :=
      hv.adj_of_pending hw₁ hpending (Graph.contains_of_node? htarget)
    have hfresh : ¬before.entered target := by
      rw [h.entered_iff]
      rw [hv.entered_iff, hpath, hplaced] at hnew
      grind
    refine .inl ⟨target :: above, since, ?_, hplaced, ?_⟩
    · rw [onPath_enter, onPath_advance hw₁ hnode, hpath, List.cons_append]
    · intro a ha
      rcases List.mem_cons.1 ha with rfl | ha
      · exact ⟨(hreach f.node htop).1, (hreach f.node htop).2.tail ⟨hadj, hfresh⟩⟩
      · exact hreach a ha

theorem Enters.inside_or_placed (h : Enters g root id before w) (hreaches : w.Reaches g w') :
    Inside g before id w' ∨ id ∈ w'.placed := by
  apply h.valid.keeps hreaches (p := fun w => Inside g before id w ∨ id ∈ w.placed) ?_
    (.inl h.inside)
  rintro w₁ w₂ hv (hinside | hplaced) hstep
  · exact h.inside_step hv hinside hstep
  · exact .inr (hstep.placed_suffix.mem hplaced)

theorem Enters.exists_leaves (h : Enters g root id before w) :
    ∃ w₁ w₂, w.Reaches g w₁ ∧ Leaves g id w₁ w₂ := by
  have hnot : id ∉ w.placed := by
    rw [h.placed_eq]
    exact fun hid => h.notMem (List.mem_append_right _ hid)
  apply (reaches_run g w).exists_leaves hnot
  apply (h.inside_or_placed (reaches_run g w)).resolve_left
  rintro ⟨above, since, hpath, _⟩
  simp [onPath] at hpath

/-- When a node is left, the path is again what it was before the node was entered, and the nodes
placed since were reached past the nodes entered before. -/
theorem Enters.inside_of_leaves (h : Enters g root id before w) {w₁ w₂ : Walk}
    (hreaches : w.Reaches g w₁) (hleaves : Leaves g id w₁ w₂) :
    w₂.onPath = before.onPath ∧ ∃ since, w₂.placed = id :: since ++ before.placed ∧
      ∀ a ∈ id :: since, g.ReachableAvoiding (before.entered ·) id a := by
  obtain ⟨hstep, hleft⟩ := hleaves
  have hnodup := (h.valid.reaches hreaches).nodup
  rw [hleft, List.cons_append, List.nodup_cons, List.mem_append, not_or] at hnodup
  obtain ⟨⟨hbelow, hnot⟩, _⟩ := hnodup
  obtain ⟨above, since, hpath, hplaced, hreach⟩ :=
    (h.inside_or_placed hreaches).resolve_right hnot
  cases above with
  | nil =>
    obtain ⟨_, hpath₂⟩ := List.cons.inj (hleft.symm.trans hpath)
    refine ⟨hpath₂, since, ?_, hreach⟩
    rw [(Step.of_step hstep).placed_of_leaves hleft, hplaced, List.cons_append]
  | cons top above =>
    -- Above the node nothing is left, else it would stand on the path twice.
    obtain ⟨_, hpath₂⟩ := List.cons.inj (hleft.symm.trans hpath)
    exact absurd (hpath₂ ▸ List.mem_append_right above List.mem_cons_self) hbelow

/-- Nothing that a node leads to past the nodes entered before is missing when the path is again what
it was: all that a placed node leads to is entered, and so placed since or avoided. -/
theorem Enters.mem_of_reachableAvoiding (h : Enters g root id before w) {since : List NodeId}
    (hv : w'.Valid g root) (hpath : w'.onPath = before.onPath)
    (hplaced : w'.placed = id :: since ++ before.placed)
    (ha : g.ReachableAvoiding (before.entered ·) id a) : a ∈ id :: since := by
  obtain ⟨_, hpaths⟩ := ha
  induction hpaths with
  | refl => exact List.mem_cons_self
  | @tail a b _ hab ih =>
    have hb : w'.entered b := hv.entered_of_adj (hplaced ▸ List.mem_append_left _ ih) hab.1
    have hnew : ¬before.entered b := hab.2
    rw [h.entered_iff] at hnew
    rw [hv.entered_iff, hpath, hplaced] at hb
    grind

/-- From the step that enters a node to the one that leaves it, which comes in every walk, exactly
those nodes are placed that the node leads to along paths which avoid all that was in progress or
done before, each once and the node itself last. In every state the nodes in progress are those of the
path, without repetition and each behind an edge of the one below, apart from the nodes done, and
these are the ones placed so far, with which the sort begins. -/
theorem placed_while_on_path (g : Graph) (root : NodeId) :
    (∀ id before w, Enters g root id before w →
      (∃ w₁ w₂, w.Reaches g w₁ ∧ Leaves g id w₁ w₂) ∧
      ∀ w₁ w₂, w.Reaches g w₁ → Leaves g id w₁ w₂ →
        w₂.onPath = before.onPath ∧ ∃ since, w₂.placed = id :: since ++ before.placed ∧
          (id :: since).Nodup ∧ ∀ a, a ∈ id :: since ↔
            g.ReachableAvoiding (fun b => b ∈ before.inProgress ∨ b ∈ before.done) id a) ∧
    ∀ w, InSort g root w →
      (∀ a, a ∈ w.inProgress ↔ a ∈ w.onPath) ∧
      w.onPath.Nodup ∧
      w.onPath.IsChain (fun a b => g.Adj b a) ∧
      (∀ a ∈ w.inProgress, a ∉ w.done) ∧
      (∀ a, a ∈ w.done ↔ a ∈ w.placed) ∧
      w.placed.Nodup ∧
      w.placed.reverse <+: g.sort root .dependencyFirst := by
  constructor
  · intro id before w h
    refine ⟨h.exists_leaves, fun w₁ w₂ hreaches hleaves => ?_⟩
    obtain ⟨hpath, since, hplaced, hreach⟩ := h.inside_of_leaves hreaches hleaves
    have hv := (h.valid.reaches hreaches).step (.of_step hleaves.1)
    have hnodup : (id :: since ++ before.placed).Nodup := hplaced ▸ hv.nodup.of_append_right
    have havoided : (before.entered · = true) = fun b => b ∈ before.inProgress ∨ b ∈ before.done := by
      funext b
      simp [entered]
    refine ⟨hpath, since, hplaced, hnodup.of_append_left, fun a => ?_⟩
    rw [← havoided]
    exact ⟨hreach a, h.mem_of_reachableAvoiding hv hpath hplaced⟩
  · intro w h
    have hv := h.valid
    obtain ⟨hpath, hplaced, hdisjoint⟩ := List.nodup_append'.1 hv.nodup
    refine ⟨hv.mem_inProgress, hpath, hv.chain, ?_, hv.mem_done, hplaced, h.placed_prefix⟩
    intro a ha hdone
    exact hdisjoint ((hv.mem_inProgress a).1 ha) ((hv.mem_done a).1 hdone)

/-- Node 2 leads to node 3, but only through node 1, which is in progress: node 3 is not placed while
node 2 is on the path. -/
theorem placed_while_on_path_rings :
    ∃ before w w₁ w₂, (Enters Graph.rings ⟨1⟩ ⟨2⟩ before w ∧ w.Reaches Graph.rings w₁ ∧
        Leaves Graph.rings ⟨2⟩ w₁ w₂ ∧ w₂.placed = [⟨2⟩]) ∧
      Graph.rings.Reachable ⟨2⟩ ⟨3⟩ ∧
      (¬Graph.rings.ReachableAvoiding (fun b => b ∈ before.inProgress ∨ b ∈ before.done) ⟨2⟩ ⟨3⟩) ∧
      InSort Graph.rings ⟨1⟩ w₂ ∧ ∀ a ∈ w₂.inProgress, a ∉ w₂.done := by
  let before := start ⟨1⟩ #[⟨#[⟨2⟩, ⟨3⟩]⟩]
  obtain ⟨w, w₁, w₂, hstep, hskip, hleave, hpath, hleft, hplaced⟩ : ∃ w w₁ w₂,
      before.step Graph.rings = some w ∧ w.step Graph.rings = some w₁ ∧
      w₁.step Graph.rings = some w₂ ∧ w.onPath = ⟨2⟩ :: before.onPath ∧
      w₁.onPath = ⟨2⟩ :: w₂.onPath ∧ w₂.placed = [⟨2⟩] :=
    ⟨_, _, _, rfl, rfl, rfl, rfl, rfl, rfl⟩
  have hbefore : InSort Graph.rings ⟨1⟩ before := ⟨_, rfl, .refl⟩
  have henters : Enters Graph.rings ⟨1⟩ ⟨2⟩ before w := .step hbefore hstep hpath
  have hafter : InSort Graph.rings ⟨1⟩ w₂ := ⟨_, rfl, .tail (.tail (.single hstep) hskip) hleave⟩
  obtain ⟨hvisits, hstates⟩ := placed_while_on_path Graph.rings ⟨1⟩
  obtain ⟨_, since, hsince, _, hmem⟩ :=
    (hvisits _ _ _ henters).2 w₁ w₂ (.single hskip) ⟨hleave, hleft⟩
  have hreach : Graph.rings.Reachable ⟨2⟩ ⟨3⟩ :=
    .head ((Graph.adj_iff rfl).2 (by decide)) (.single Graph.adj_rings)
  refine ⟨before, w, w₁, w₂, ⟨henters, .single hskip, ⟨hleave, hleft⟩, hplaced⟩, hreach, ?_, hafter,
    (hstates w₂ hafter).2.2.2.1⟩
  intro havoiding
  have hthree : ⟨3⟩ ∈ (⟨2⟩ : NodeId) :: since := (hmem ⟨3⟩).2 havoiding
  rw [hplaced, List.cons_append, List.cons.injEq] at hsince
  simp [List.append_eq_nil_iff.1 hsince.2.symm] at hthree

end Walk

end ArtifactResolution
