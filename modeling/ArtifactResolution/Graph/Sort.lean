import ArtifactResolution.Graph.Frame
import ArtifactResolution.SortOrder
import Std.Data.TreeSet

namespace ArtifactResolution
set_option autoImplicit false

/-- A depth-first walk under way: the path from the innermost node outwards, kept as an explicit
stack, the nodes on it, the nodes already placed, and these again, the last placed first. -/
structure Walk where
  path : List Frame
  inProgress : Std.TreeSet NodeId
  done : Std.TreeSet NodeId
  placed : List NodeId

namespace Walk

def start (root : NodeId) (edges : Array Edge) : Walk where
  path := [Frame.enter root edges]
  inProgress := Std.TreeSet.ofList [root]
  done := ∅
  placed := []

def entered (w : Walk) (id : NodeId) : Bool := w.inProgress.contains id || w.done.contains id

/-- Leaves the innermost node, which takes its place. -/
def leave (w : Walk) (id : NodeId) (path : List Frame) : Walk where
  path := path
  inProgress := w.inProgress.erase id
  done := w.done.insert id
  placed := id :: w.placed

def enter (w : Walk) (id : NodeId) (edges : Array Edge) (path : List Frame) : Walk :=
  { w with path := Frame.enter id edges :: path, inProgress := w.inProgress.insert id }

/-- Takes one target from the innermost node, or leaves that node when it has none left. A target
that is on the path, that is placed or that the graph lacks is skipped. -/
def step (g : Graph) (w : Walk) : Option Walk :=
  match w.path with
  | [] => none
  | frame :: path =>
    match frame.next with
    | (none, _) => some (w.leave frame.node path)
    | (some target, frame) =>
      if w.entered target then some { w with path := frame :: path }
      else
        match g.node? target with
        | none => some { w with path := frame :: path }
        | some n => some (w.enter target n.edges (frame :: path))

/-- The number of steps that the nodes not yet entered allow for. -/
def unvisited (g : Graph) (w : Walk) : Nat :=
  ((g.nodes.filter fun n => !w.entered n.id).flatMap fun n =>
    n.id :: (Frame.enter n.id n.edges).pending).length

def remaining (g : Graph) (w : Walk) : Nat :=
  (w.path.flatMap fun f => f.node :: f.pending).length + w.unvisited g

theorem entered_leave (w : Walk) (id : NodeId) (path : List Frame) {id' : NodeId}
    (h : w.entered id') : (w.leave id path).entered id' := by
  by_cases hid : id = id' <;> simp_all [entered, leave]

theorem entered_enter (w : Walk) (id : NodeId) (edges : Array Edge) (path : List Frame)
    (id' : NodeId) : (w.enter id edges path).entered id' = (decide (id = id') || w.entered id') := by
  simp [entered, enter, Bool.or_assoc]

theorem length_filter_le {α β : Type} (l : List α) (f : α → List β) {p q : α → Bool}
    (h : ∀ a, q a → p a) :
    ((l.filter q).flatMap f).length ≤ ((l.filter p).flatMap f).length := by
  induction l with
  | nil => simp
  | cons a l ih =>
    have := h a
    grind

theorem length_filter_add_le {α β : Type} {l : List α} (f : α → List β) {p q : α → Bool} {a : α}
    (ha : a ∈ l) (hp : p a) (hq : ¬q a) (h : ∀ a, q a → p a) :
    ((l.filter q).flatMap f).length + (f a).length ≤ ((l.filter p).flatMap f).length := by
  induction l with
  | nil => simp at ha
  | cons b l ih =>
    have hb := h b
    have hle := length_filter_le l f h
    by_cases hab : a = b
    · grind
    · grind

theorem unvisited_leave (g : Graph) (w : Walk) (id : NodeId) (path : List Frame) :
    (w.leave id path).unvisited g ≤ w.unvisited g := by
  apply length_filter_le
  intro n hn
  have : w.entered n.id → (w.leave id path).entered n.id := w.entered_leave id path
  grind

theorem unvisited_enter {g : Graph} {w : Walk} {id : NodeId} {n : Node} (hn : g.node? id = some n)
    (hid : ¬w.entered id) (path : List Frame) :
    (w.enter id n.edges path).unvisited g + ((Frame.enter id n.edges).pending.length + 1) ≤
      w.unvisited g := by
  have hnid : n.id = id := g.id_eq hn
  subst hnid
  apply length_filter_add_le (fun n => n.id :: (Frame.enter n.id n.edges).pending)
    (Graph.mem_nodes_of_node? hn)
  · simpa using hid
  · simp [entered_enter]
  · intro m hm
    have := w.entered_enter n.id n.edges path m.id
    grind

theorem remaining_step {g : Graph} {w w' : Walk} (h : w.step g = some w') :
    w'.remaining g < w.remaining g := by
  rw [step] at h
  split at h
  · cases h
  · next frame path hpath =>
    simp only [remaining, hpath, List.flatMap_cons, List.length_append, List.length_cons]
    split at h
    · cases h
      have := w.unvisited_leave g frame.node path
      simp only [leave] at this ⊢
      omega
    · next target frame' hf =>
      have hp := Frame.pending_of_next hf
      split at h
      · cases h
        simp only [hp, unvisited, entered, List.flatMap_cons, List.length_append, List.length_cons]
        omega
      · next hentered =>
        split at h
        · cases h
          simp only [hp, unvisited, entered, List.flatMap_cons, List.length_append, List.length_cons]
          omega
        · next n hn =>
          cases h
          have := unvisited_enter hn hentered (frame' :: path)
          simp only [enter, hp, List.flatMap_cons, List.length_append, List.length_cons] at this ⊢
          omega

def run (g : Graph) (w : Walk) : Walk :=
  match _h : w.step g with
  | none => w
  | some w' => run g w'
termination_by w.remaining g
decreasing_by exact remaining_step _h

end Walk

/-- The nodes reachable from a root, each once: every node stands after the nodes it leads to,
cycles apart, or before them when consumers come first. -/
def Graph.sort (g : Graph) (root : NodeId) (order : SortOrder) : List NodeId :=
  match g.node? root with
  | none => []
  | some n =>
    let placed := ((Walk.start root n.edges).run g).placed
    if order = .consumerFirst then placed else placed.reverse

end ArtifactResolution
