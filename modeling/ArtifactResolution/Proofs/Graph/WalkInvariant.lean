import ArtifactResolution.Proofs.Graph.WalkStep
import Mathlib.Data.List.Chain
import Mathlib.Data.List.Nodup

namespace ArtifactResolution
set_option autoImplicit false

namespace Walk

def onPath (w : Walk) : List NodeId := w.path.map Frame.node

/-- The targets of a frame's node are those it has given and those it still holds; of the ones
given, all that the graph has are entered. -/
def Accounted (g : Graph) (w : Walk) (f : Frame) : Prop :=
  ∃ n taken, g.node? f.node = some n ∧ n.targets = taken ++ f.pending ∧
    ∀ id ∈ taken, g.contains id → w.entered id

/-- In a list with the node placed last in front, each node leads only to entered nodes, and these
were placed before it or lead back to it. -/
def Settled (g : Graph) (w : Walk) : List NodeId → Prop
  | [] => True
  | a :: earlier => w.Settled g earlier ∧
      ∀ b, g.Adj a b → w.entered b ∧ (b ∈ earlier ∨ g.Reachable b a)

/-- What holds of every state of a walk from a root. The path is a path of the graph, without
repetition and apart from the placed nodes; of the targets that a node of the path has given all
that the graph has are entered; and a placed node stands after each node it leads to, unless that
node leads back to it. -/
structure Valid (g : Graph) (root : NodeId) (w : Walk) : Prop where
  mem_inProgress : ∀ id, id ∈ w.inProgress ↔ id ∈ w.onPath
  mem_done : ∀ id, id ∈ w.done ↔ id ∈ w.placed
  nodup : (w.onPath ++ w.placed).Nodup
  chain : w.onPath.IsChain fun a b => g.Adj b a
  reachable : ∀ id ∈ w.onPath ++ w.placed, g.Reachable root id
  root_last : (w.placed.reverse ++ w.onPath).getLast? = some root
  accounted : ∀ f ∈ w.path, w.Accounted g f
  settled : w.Settled g w.placed

variable {g : Graph} {w w' : Walk} {root : NodeId}

theorem Valid.entered_iff (hv : w.Valid g root) (id : NodeId) :
    w.entered id ↔ id ∈ w.onPath ++ w.placed := by
  rw [entered, Bool.or_eq_true, List.mem_append, ← hv.mem_inProgress, ← hv.mem_done]
  exact Iff.rfl

theorem Accounted.mono {f : Frame} (h : w.Accounted g f) (hle : ∀ id, w.entered id → w'.entered id) :
    w'.Accounted g f := by
  obtain ⟨n, taken, hn, htargets, htaken⟩ := h
  exact ⟨n, taken, hn, htargets, fun id hid hg => hle id (htaken id hid hg)⟩

theorem Settled.mono {placed : List NodeId} (h : w.Settled g placed)
    (hle : ∀ id, w.entered id → w'.entered id) : w'.Settled g placed := by
  induction placed with
  | nil => trivial
  | cons a earlier ih =>
    refine ⟨ih h.1, fun b hab => ?_⟩
    obtain ⟨hb, horder⟩ := h.2 b hab
    exact ⟨hle b hb, horder⟩

theorem Accounted.advance {f f' : Frame} {target : NodeId} (h : w.Accounted g f)
    (hnode : f'.node = f.node) (hpending : f.pending = target :: f'.pending)
    (htarget : g.contains target → w.entered target) : w.Accounted g f' := by
  obtain ⟨n, taken, hn, htargets, htaken⟩ := h
  refine ⟨n, taken ++ [target], by rw [hnode, hn], by simp [htargets, hpending], ?_⟩
  intro id hid hg
  rcases List.mem_append.1 hid with hid | hid
  · exact htaken id hid hg
  · cases List.mem_singleton.1 hid
    exact htarget hg

theorem accounted_enter {id : NodeId} {n : Node} (hn : g.node? id = some n) :
    w.Accounted g (Frame.enter id n.edges) :=
  ⟨n, [], hn, by simp, by simp⟩

theorem reachable_of_chain {a b : NodeId} {path : List NodeId}
    (h : (a :: path).IsChain fun a b => g.Adj b a) (hb : b ∈ a :: path) : g.Reachable b a := by
  induction path generalizing a with
  | nil =>
    cases List.mem_singleton.1 hb
    exact .refl
  | cons c path ih =>
    rcases List.mem_cons.1 hb with rfl | hb
    · exact .refl
    · exact (ih h.tail hb).tail h.rel

@[simp] theorem onPath_leave (w : Walk) (id : NodeId) (path : List Frame) :
    (w.leave id path).onPath = path.map Frame.node := rfl

@[simp] theorem placed_leave (w : Walk) (id : NodeId) (path : List Frame) :
    (w.leave id path).placed = id :: w.placed := rfl

@[simp] theorem onPath_enter (w : Walk) (id : NodeId) (edges : Array Edge) (path : List Frame) :
    (w.enter id edges path).onPath = id :: path.map Frame.node := rfl

@[simp] theorem placed_enter (w : Walk) (id : NodeId) (edges : Array Edge) (path : List Frame) :
    (w.enter id edges path).placed = w.placed := rfl

section
variable {f f' : Frame} {path : List Frame} {target : NodeId}

theorem onPath_of_path (h : w.path = f :: path) : w.onPath = f.node :: path.map Frame.node := by
  rw [onPath, h, List.map_cons]

theorem onPath_advance (hpath : w.path = f :: path) (hnode : f'.node = f.node) :
    (f' :: path).map Frame.node = w.onPath := by
  rw [onPath_of_path hpath, List.map_cons, hnode]

theorem Valid.accounted_head (hv : w.Valid g root) (hpath : w.path = f :: path) :
    w.Accounted g f :=
  hv.accounted f (hpath ▸ List.mem_cons_self)

theorem Valid.accounted_tail (hv : w.Valid g root) (hpath : w.path = f :: path)
    (hf' : f' ∈ path) : w.Accounted g f' :=
  hv.accounted f' (hpath ▸ List.mem_cons_of_mem f hf')

theorem Valid.adj_of_pending (hv : w.Valid g root) (hpath : w.path = f :: path)
    {rest : List NodeId} (hpending : f.pending = target :: rest) (htarget : g.contains target) :
    g.Adj f.node target := by
  obtain ⟨n, taken, hn, htargets, _⟩ := hv.accounted_head hpath
  have hmem : target ∈ n.targets := by simp [htargets, hpending]
  exact (Graph.adj_iff hn).2 ⟨hmem, htarget⟩

/-- A node that has given all its targets leads only to placed nodes and to nodes of the path. -/
theorem Valid.adj_of_exhausted (hv : w.Valid g root) (hpath : w.path = f :: path)
    (hpending : f.pending = []) {b : NodeId} (hb : g.Adj f.node b) :
    w.entered b ∧ (b ∈ w.placed ∨ g.Reachable b f.node) := by
  obtain ⟨n, taken, hn, htargets, htaken⟩ := hv.accounted_head hpath
  obtain ⟨hmem, hcontains⟩ := (Graph.adj_iff hn).1 hb
  rw [htargets, hpending, List.append_nil] at hmem
  have hentered := htaken b hmem hcontains
  refine ⟨hentered, ?_⟩
  rcases List.mem_append.1 ((hv.entered_iff b).1 hentered) with hpathb | hplaced
  · -- The path itself leads from such a node back to the innermost one.
    have hchain := hv.chain
    rw [onPath_of_path hpath] at hchain hpathb
    exact .inr (reachable_of_chain hchain hpathb)
  · exact .inl hplaced

theorem Valid.leave (hv : w.Valid g root) (hpath : w.path = f :: path)
    (hpending : f.pending = []) : (w.leave f.node path).Valid g root := by
  have honPath := onPath_of_path hpath
  have hperm : (path.map Frame.node ++ f.node :: w.placed).Perm (w.onPath ++ w.placed) := by
    rw [honPath, List.cons_append]
    exact List.perm_middle
  have hle (id : NodeId) : w.entered id → (w.leave f.node path).entered id :=
    w.entered_leave f.node path
  have hfresh : f.node ∉ path.map Frame.node := by
    have hnodup := hv.nodup
    rw [honPath, List.cons_append] at hnodup
    intro hmem
    exact (List.nodup_cons.1 hnodup).1 (List.mem_append_left _ hmem)
  constructor
  case mem_inProgress =>
    intro id
    have hmem := hv.mem_inProgress id
    rw [honPath] at hmem
    simp only [Walk.leave, onPath, Std.TreeSet.mem_erase, hmem]
    grind
  case mem_done =>
    intro id
    have hmem := hv.mem_done id
    simp only [Walk.leave, Std.TreeSet.mem_insert, hmem]
    grind
  case nodup => exact hperm.nodup_iff.2 hv.nodup
  case chain =>
    have hchain := hv.chain
    rw [honPath] at hchain
    exact hchain.tail
  case reachable => exact fun id hid => hv.reachable id (hperm.mem_iff.1 hid)
  case root_last =>
    have hlast := hv.root_last
    rw [honPath] at hlast
    simpa using hlast
  case accounted => exact fun f' hf' => (hv.accounted_tail hpath hf').mono hle
  case settled =>
    refine ⟨hv.settled.mono hle, fun b hb => ?_⟩
    obtain ⟨hentered, horder⟩ := hv.adj_of_exhausted hpath hpending hb
    exact ⟨hle b hentered, horder⟩

theorem Valid.skip (hv : w.Valid g root) (hpath : w.path = f :: path) (hnode : f'.node = f.node)
    (hpending : f.pending = target :: f'.pending)
    (hskip : w.entered target ∨ ¬g.contains target) :
    ({ w with path := f' :: path } : Walk).Valid g root := by
  have honPath : ({ w with path := f' :: path } : Walk).onPath = w.onPath :=
    onPath_advance hpath hnode
  have hf : w.Accounted g f' := by
    apply (hv.accounted_head hpath).advance hnode hpending
    intro hcontains
    exact hskip.resolve_right (not_not_intro hcontains)
  constructor
  case mem_inProgress => exact fun id => honPath ▸ hv.mem_inProgress id
  case mem_done => exact hv.mem_done
  case nodup => exact honPath ▸ hv.nodup
  case chain => exact honPath ▸ hv.chain
  case reachable => exact honPath ▸ hv.reachable
  case root_last => exact honPath ▸ hv.root_last
  case accounted =>
    intro f'' hf''
    rcases List.mem_cons.1 hf'' with rfl | hf''
    · exact hf.mono fun _ h => h
    · exact (hv.accounted_tail hpath hf'').mono fun _ h => h
  case settled => exact hv.settled.mono fun _ h => h

theorem Valid.enter (hv : w.Valid g root) {n : Node} (hpath : w.path = f :: path)
    (hnode : f'.node = f.node) (hpending : f.pending = target :: f'.pending)
    (hnew : ¬w.entered target) (htarget : g.node? target = some n) :
    (w.enter target n.edges (f' :: path)).Valid g root := by
  have honPath : (w.enter target n.edges (f' :: path)).onPath = target :: w.onPath := by
    rw [onPath_enter, onPath_advance hpath hnode]
  have hentered (id : NodeId) : (w.enter target n.edges (f' :: path)).entered id =
      (decide (target = id) || w.entered id) := w.entered_enter target n.edges (f' :: path) id
  have hle (id : NodeId) (h : w.entered id) :
      (w.enter target n.edges (f' :: path)).entered id := by
    rw [hentered, h, Bool.or_true]
  have hadj : g.Adj f.node target :=
    hv.adj_of_pending hpath hpending (Graph.contains_of_node? htarget)
  constructor
  case mem_inProgress =>
    intro id
    have hmem := hv.mem_inProgress id
    rw [honPath]
    simp only [Walk.enter, Std.TreeSet.mem_insert, hmem, List.mem_cons]
    grind
  case mem_done => exact hv.mem_done
  case nodup =>
    rw [honPath, placed_enter, List.cons_append, List.nodup_cons]
    exact ⟨fun hmem => hnew ((hv.entered_iff target).2 hmem), hv.nodup⟩
  case chain =>
    have hchain := hv.chain
    rw [onPath_of_path hpath] at hchain
    rw [honPath, onPath_of_path hpath]
    exact hchain.cons_cons hadj
  case reachable =>
    rw [honPath, placed_enter]
    intro id hid
    rcases List.mem_cons.1 hid with rfl | hid
    · have hf : f.node ∈ w.onPath ++ w.placed := by simp [onPath_of_path hpath]
      exact (hv.reachable f.node hf).tail hadj
    · exact hv.reachable id hid
  case root_last =>
    have hlast := hv.root_last
    rw [onPath_of_path hpath] at hlast
    rw [honPath, placed_enter, onPath_of_path hpath]
    simpa using hlast
  case accounted =>
    have hf := hv.accounted_head hpath
    intro f'' hf''
    rcases List.mem_cons.1 hf'' with rfl | hf''
    · exact accounted_enter htarget
    rcases List.mem_cons.1 hf'' with rfl | hf''
    · exact (hf.mono hle).advance hnode hpending fun _ => by simp [hentered]
    · exact (hv.accounted_tail hpath hf'').mono hle
  case settled => exact hv.settled.mono hle

end

theorem Valid.step (hv : w.Valid g root) (h : Step g w w') : w'.Valid g root := by
  cases h with
  | leave hpath hpending => exact hv.leave hpath hpending
  | skip hpath hnode hpending hskip => exact hv.skip hpath hnode hpending hskip
  | enter hpath hnode hpending hnew htarget => exact hv.enter hpath hnode hpending hnew htarget

theorem valid_start {n : Node} (hn : g.node? root = some n) :
    (start root n.edges).Valid g root where
  mem_inProgress id := by simp [start, onPath, eq_comm (a := id)]
  mem_done id := by simp [start]
  nodup := by simp [start, onPath]
  chain := by simp [start, onPath]
  reachable id hid := by
    cases (show id = root by simpa [start, onPath] using hid)
    exact .refl
  root_last := by simp [start, onPath]
  accounted f hf := by
    cases (show f = Frame.enter root n.edges by simpa [start] using hf)
    exact accounted_enter hn
  settled := trivial

theorem Valid.reaches (hv : w.Valid g root) (h : w.Reaches g w') : w'.Valid g root :=
  h.keeps Valid.step hv

theorem Valid.keeps {p : Walk → Prop} (hv : w.Valid g root) (h : w.Reaches g w')
    (hp : ∀ {w w'}, w.Valid g root → p w → Step g w w' → p w') (hw : p w) : p w' := by
  induction h with
  | refl => exact hw
  | tail h hstep ih => exact hp (hv.reaches h) ih (.of_step hstep)

theorem Reaches.valid {n : Node} (hn : g.node? root = some n)
    (h : (start root n.edges).Reaches g w) : w.Valid g root :=
  (valid_start hn).reaches h

end Walk

end ArtifactResolution
