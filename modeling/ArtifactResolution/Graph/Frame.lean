import ArtifactResolution.Graph

namespace ArtifactResolution
set_option autoImplicit false

/-- A node being visited, with the place reached in its edges: `unread` edges are not exhausted,
and the last of them continues at `cursor`. -/
structure Frame where
  node : NodeId
  edges : Array Edge
  unread : Nat
  cursor : Nat

namespace Frame

def enter (node : NodeId) (edges : Array Edge) : Frame := ⟨node, edges, edges.size, 0⟩

def targetsAt (edges : Array Edge) (i : Nat) : Array NodeId := (edges[i]?.map Edge.targets).getD #[]

/-- The next target at or after a place, and the place behind it. Edges are read from the last
declared to the first, the targets of one edge from first to last. -/
def nextFrom (edges : Array Edge) : Nat → Nat → Option NodeId × Nat × Nat
  | 0, cursor => (none, 0, cursor)
  | unread + 1, cursor =>
    match (targetsAt edges unread)[cursor]? with
    | some target => (some target, unread + 1, cursor + 1)
    | none => nextFrom edges unread 0

def next (f : Frame) : Option NodeId × Frame :=
  let r := nextFrom f.edges f.unread f.cursor
  (r.1, { f with unread := r.2.1, cursor := r.2.2 })

def pendingFrom (edges : Array Edge) : Nat → Nat → List NodeId
  | 0, _ => []
  | unread + 1, cursor => (targetsAt edges unread).toList.drop cursor ++ pendingFrom edges unread 0

/-- The targets that are still to be handed out. -/
def pending (f : Frame) : List NodeId := pendingFrom f.edges f.unread f.cursor

theorem nextFrom_pending (edges : Array Edge) (unread cursor : Nat) :
    (nextFrom edges unread cursor).1 = (pendingFrom edges unread cursor).head? ∧
      pendingFrom edges (nextFrom edges unread cursor).2.1 (nextFrom edges unread cursor).2.2 =
        (pendingFrom edges unread cursor).tail := by
  induction unread generalizing cursor with
  | zero => exact ⟨rfl, rfl⟩
  | succ unread ih =>
    rw [nextFrom]
    cases h : (targetsAt edges unread)[cursor]? with
    | none =>
      have hd : (targetsAt edges unread).toList.drop cursor = [] := by
        simpa using h
      simpa [pendingFrom, hd] using ih 0
    | some target =>
      have hd : (targetsAt edges unread).toList.drop cursor =
          target :: (targetsAt edges unread).toList.drop (cursor + 1) := by
        obtain ⟨hlt, rfl⟩ := Array.getElem?_eq_some_iff.1 h
        rw [List.drop_eq_getElem_cons (by simpa using hlt), Array.getElem_toList]
      simp [pendingFrom, hd]

theorem next_fst (f : Frame) : f.next.1 = f.pending.head? :=
  (nextFrom_pending f.edges f.unread f.cursor).1

@[simp] theorem pending_next (f : Frame) : f.next.2.pending = f.pending.tail :=
  (nextFrom_pending f.edges f.unread f.cursor).2

theorem pending_of_next {f f' : Frame} {target : NodeId} (h : f.next = (some target, f')) :
    f.pending = target :: f'.pending := by
  have hhead := f.next_fst
  have htail := f.pending_next
  rw [h] at hhead htail
  cases hp : f.pending <;> simp_all

theorem pending_of_next_none {f f' : Frame} (h : f.next = (none, f')) : f.pending = [] := by
  have hhead := f.next_fst
  rw [h] at hhead
  simpa using hhead.symm

@[simp] theorem node_next (f : Frame) : f.next.2.node = f.node := rfl

@[simp] theorem node_enter (id : NodeId) (edges : Array Edge) : (enter id edges).node = id := rfl

end Frame

end ArtifactResolution
