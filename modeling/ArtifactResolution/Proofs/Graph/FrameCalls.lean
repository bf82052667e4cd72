import ArtifactResolution.Proofs.Graph.Reachability
import Mathlib.Data.List.Nodup
import Mathlib.Data.Prod.Basic
import Mathlib.Logic.Function.Iterate

namespace ArtifactResolution
set_option autoImplicit false

namespace Frame
variable {edges : Array Edge} {f : Frame} {unread cursor i j : Nat}

/-- A call under way: it is at a place in the edges, it has ended with an answer and the place behind
it, or it has failed because the edge that it reads is missing. -/
inductive Call where
  | running (unread cursor : Nat)
  | ended (answer : Option NodeId) (unread cursor : Nat)
  | failed

namespace Call

def reads? : Call → Option Nat
  | running (unread + 1) _ => some unread
  | _ => none

/-- One round: the last edge that is not exhausted gives the target at the cursor, or it is given up
for the edge before it. -/
def round (edges : Array Edge) : Call → Call
  | running 0 cursor => ended none 0 cursor
  | running (unread + 1) cursor =>
    match edges[unread]? with
    | none => failed
    | some e =>
      match e.targets[cursor]? with
      | some target => ended (some target) (unread + 1) (cursor + 1)
      | none => running unread 0
  | call => call

/-- No more edges are unread than there are, and the call has not failed. -/
def InBounds (edges : Array Edge) : Call → Prop
  | running unread _ => unread ≤ edges.size
  | ended .. => True
  | failed => False

theorem round_running (h : unread < edges.size) (cursor : Nat) :
    Call.round edges (running (unread + 1) cursor) =
      match (targetsAt edges unread)[cursor]? with
      | some target => ended (some target) (unread + 1) (cursor + 1)
      | none => running unread 0 := by
  have hedge : edges[unread]? = some edges[unread] := Array.getElem?_eq_getElem h
  simp [Call.round, targetsAt, hedge]

theorem InBounds.round {call : Call} (h : call.InBounds edges) :
    (call.round edges).InBounds edges := by
  cases call with
  | running unread cursor =>
    cases unread with
    | zero => trivial
    | succ unread =>
      rw [round_running h]
      split
      · trivial
      · exact Nat.le_of_succ_le h
  | ended answer unread cursor => trivial
  | failed => exact h

theorem InBounds.rounds {call : Call} (h : call.InBounds edges) (n : Nat) :
    ((Call.round edges)^[n] call).InBounds edges := by
  induction n with
  | zero => exact h
  | succ n ih =>
    rw [Function.iterate_succ_apply']
    exact ih.round

theorem InBounds.lt_of_reads? {call : Call} (h : call.InBounds edges)
    (hread : call.reads? = some i) : i < edges.size := by
  cases call with
  | running unread cursor =>
    cases unread with
    | zero => cases hread
    | succ unread =>
      cases hread
      exact h
  | ended answer unread cursor => cases hread
  | failed => cases hread

/-- A call gives up at most the unread edges, so it ends, and as `nextFrom` says. -/
theorem exists_ended (h : unread ≤ edges.size) (cursor : Nat) :
    ∃ n ≤ unread + 1, (Call.round edges)^[n] (running unread cursor) =
      ended (nextFrom edges unread cursor).1 (nextFrom edges unread cursor).2.1
        (nextFrom edges unread cursor).2.2 := by
  induction unread generalizing cursor with
  | zero => exact ⟨1, le_rfl, rfl⟩
  | succ unread ih =>
    have hround := round_running h cursor
    rw [nextFrom]
    cases htarget : (targetsAt edges unread)[cursor]? with
    | some target =>
      rw [htarget] at hround
      exact ⟨1, by omega, hround⟩
    | none =>
      rw [htarget] at hround
      obtain ⟨n, hn, hended⟩ := ih (Nat.le_of_succ_le h) 0
      exact ⟨n + 1, by omega, by rw [Function.iterate_succ_apply, hround, hended]⟩

end Call

def call (f : Frame) : Call := .running f.unread f.cursor

def after (f : Frame) : Nat → Frame
  | 0 => f
  | k + 1 => (f.after k).next.2

@[simp] theorem edges_after (f : Frame) (k : Nat) : (f.after k).edges = f.edges := by
  induction k with
  | zero => rfl
  | succ k ih => exact ih

theorem view_after {α : Type} (view : Frame → List α) (h : ∀ f, view f.next.2 = (view f).tail)
    (f : Frame) (k : Nat) : view (f.after k) = (view f).drop k := by
  induction k with
  | zero => rfl
  | succ k ih => rw [after, h, ih, List.tail_drop]

theorem pending_after (f : Frame) (k : Nat) : (f.after k).pending = f.pending.drop k :=
  view_after pending pending_next f k

theorem next_after (f : Frame) (k : Nat) : (f.after k).next.1 = f.pending[k]? := by
  rw [next_fst, pending_after, List.head?_drop]

theorem nextFrom_unread_le (edges : Array Edge) (unread cursor : Nat) :
    (nextFrom edges unread cursor).2.1 ≤ unread := by
  induction unread generalizing cursor with
  | zero => exact le_rfl
  | succ unread ih =>
    rw [nextFrom]
    split
    · exact le_rfl
    · exact (ih 0).trans (Nat.le_succ unread)

theorem unread_after_le (f : Frame) (k : Nat) : (f.after k).unread ≤ f.unread := by
  induction k with
  | zero => exact le_rfl
  | succ k ih => exact (nextFrom_unread_le _ _ _).trans ih

/-- The slots from a place on, each an edge and a position among its targets: edges from the last to
the first, the positions in one edge from first to last. -/
def slotsFrom (edges : Array Edge) : Nat → Nat → List (Nat × Nat)
  | 0, _ => []
  | unread + 1, cursor =>
    (List.range' cursor ((targetsAt edges unread).size - cursor)).map (unread, ·) ++
      slotsFrom edges unread 0

def slots (edges : Array Edge) : List (Nat × Nat) := slotsFrom edges edges.size 0

def untaken (f : Frame) : List (Nat × Nat) := slotsFrom f.edges f.unread f.cursor

/-- The slot whose target the next call hands out; the call leaves the cursor right behind it. -/
def slot? (f : Frame) : Option (Nat × Nat) :=
  f.next.1.map fun _ => (f.next.2.unread - 1, f.next.2.cursor - 1)

theorem lt_of_mem_slotsFrom (h : (i, j) ∈ slotsFrom edges unread cursor) : i < unread := by
  induction unread generalizing cursor with
  | zero => simp [slotsFrom] at h
  | succ unread ih =>
    rcases List.mem_append.1 h with h | h
    · obtain ⟨_, _, hslot⟩ := List.mem_map.1 h
      cases hslot
      exact Nat.lt_succ_self _
    · exact (ih h).trans (Nat.lt_succ_self _)

theorem nodup_slotsFrom (edges : Array Edge) (unread cursor : Nat) :
    (slotsFrom edges unread cursor).Nodup := by
  induction unread generalizing cursor with
  | zero => exact List.nodup_nil
  | succ unread ih =>
    have hpositions : (List.range' cursor ((targetsAt edges unread).size - cursor)).Nodup :=
      List.nodup_range' 1
    refine (hpositions.map (Prod.mk_right_injective unread)).append (ih 0) ?_
    intro slot hslot hbefore
    obtain ⟨j, _, rfl⟩ := List.mem_map.1 hslot
    exact (lt_of_mem_slotsFrom hbefore).false

theorem mem_slotsFrom_zero_iff :
    (i, j) ∈ slotsFrom edges unread 0 ↔ i < unread ∧ j < (targetsAt edges i).size := by
  induction unread with
  | zero => simp [slotsFrom]
  | succ unread ih =>
    rw [slotsFrom, List.mem_append, ih]
    simp only [List.mem_map, List.mem_range'_1, Prod.mk.injEq, exists_eq_right_right]
    grind

theorem nextFrom_slots (edges : Array Edge) (unread cursor : Nat) :
    ((nextFrom edges unread cursor).1.map fun _ =>
        ((nextFrom edges unread cursor).2.1 - 1, (nextFrom edges unread cursor).2.2 - 1)) =
      (slotsFrom edges unread cursor).head? ∧
    slotsFrom edges (nextFrom edges unread cursor).2.1 (nextFrom edges unread cursor).2.2 =
      (slotsFrom edges unread cursor).tail ∧
    ∀ slot ∈ (slotsFrom edges unread cursor).head?,
      (nextFrom edges unread cursor).1 = (targetsAt edges slot.1)[slot.2]? := by
  induction unread generalizing cursor with
  | zero => exact ⟨rfl, rfl, by simp [slotsFrom]⟩
  | succ unread ih =>
    rw [nextFrom]
    cases h : (targetsAt edges unread)[cursor]? with
    | none =>
      -- The edge has no slot at or behind the cursor, and the call goes on with the edge before it.
      have hnone : (targetsAt edges unread).size - cursor = 0 := by
        have := Array.getElem?_eq_none_iff.1 h
        omega
      simpa [slotsFrom, hnone] using ih 0
    | some target =>
      have hsome : (targetsAt edges unread).size - cursor =
          (targetsAt edges unread).size - (cursor + 1) + 1 := by
        obtain ⟨hlt, _⟩ := Array.getElem?_eq_some_iff.1 h
        omega
      simp [slotsFrom, hsome, List.range'_succ, h]

theorem mem_slots_iff :
    (i, j) ∈ slots edges ↔ ∃ e, edges[i]? = some e ∧ j < e.targets.size := by
  rw [slots, mem_slotsFrom_zero_iff, targetsAt]
  constructor
  · rintro ⟨hi, hj⟩
    have hedge : edges[i]? = some edges[i] := Array.getElem?_eq_getElem hi
    exact ⟨edges[i], hedge, by simpa [hedge] using hj⟩
  · rintro ⟨e, he, hj⟩
    obtain ⟨hi, _⟩ := Array.getElem?_eq_some_iff.1 he
    exact ⟨hi, by simpa [he] using hj⟩

theorem slot?_eq_head? (f : Frame) : f.slot? = f.untaken.head? :=
  (nextFrom_slots f.edges f.unread f.cursor).1

theorem untaken_next (f : Frame) : f.next.2.untaken = f.untaken.tail :=
  (nextFrom_slots f.edges f.unread f.cursor).2.1

theorem next_of_slot? {slot : Nat × Nat} (h : slot ∈ f.slot?) :
    f.next.1 = (targetsAt f.edges slot.1)[slot.2]? := by
  rw [slot?_eq_head?] at h
  exact (nextFrom_slots f.edges f.unread f.cursor).2.2 slot h

theorem slot?_after (f : Frame) (k : Nat) : (f.after k).slot? = f.untaken[k]? := by
  rw [slot?_eq_head?, view_after untaken untaken_next, List.head?_drop]

/-- A frame that has just entered its node hands out the targets of its edges, from the last edge to
the first and those of one edge from first to last, and then no more: each call takes the next slot,
and every slot is taken once. No call reads beyond the edges, each ends, and what is left to hand out
after it is a tail of the targets. -/
theorem calls_take_each_slot (id : NodeId) (edges : Array Edge) :
    let targets := edges.toList.reverse.flatMap fun e => e.targets.toList
    ((slots edges).Nodup ∧
      ∀ i j, (i, j) ∈ slots edges ↔ ∃ e, edges[i]? = some e ∧ j < e.targets.size) ∧
    ∀ k, let f := (enter id edges).after k
      f.next.1 = targets[k]? ∧
      f.slot? = (slots edges)[k]? ∧
      (∀ slot ∈ f.slot?, f.next.1 = (targetsAt edges slot.1)[slot.2]?) ∧
      (∀ n i, ((Call.round edges)^[n] f.call).reads? = some i → i < edges.size) ∧
      (∃ n ≤ f.unread + 1, (Call.round edges)^[n] f.call =
        .ended f.next.1 f.next.2.unread f.next.2.cursor) ∧
      f.next.2.pending <:+ targets ∧
      ∀ m, (f.next.2.after m).next.1 = f.next.2.pending[m]? := by
  intro targets
  refine ⟨⟨nodup_slotsFrom edges edges.size 0, fun i j => mem_slots_iff⟩, fun k => ?_⟩
  intro f
  have hedges : f.edges = edges := edges_after _ k
  have hunread : f.unread ≤ edges.size := unread_after_le _ k
  have htargets : (enter id edges).pending = targets := pending_enter_eq_flatMap id edges
  have hbounds : f.call.InBounds edges := hunread
  refine ⟨?_, slot?_after _ k, ?_, ?_, ?_, ?_, next_after f.next.2⟩
  · rw [← htargets]
    exact next_after _ k
  · intro slot hslot
    rw [← hedges]
    exact next_of_slot? hslot
  · intro n i hread
    exact (hbounds.rounds n).lt_of_reads? hread
  · rw [← hedges] at hunread ⊢
    exact Call.exists_ended hunread f.cursor
  · rw [← htargets]
    exact (pending_after _ (k + 1)) ▸ List.drop_suffix (k + 1) _

/-- Edges without targets stand at the end and in between, and one edge has a target twice. -/
def gappedEdges : Array Edge := #[⟨#[⟨1⟩, ⟨2⟩]⟩, ⟨#[]⟩, ⟨#[⟨2⟩, ⟨2⟩]⟩, ⟨#[]⟩]

/-- The third call gives up an edge that is exhausted and one without targets, and reads the first
edge in its third round. -/
theorem calls_take_each_slot_gapped :
    let f := (enter ⟨1⟩ gappedEdges).after 2
    (f.slot? = some (0, 0) ∧ f.next.1 = (targetsAt gappedEdges 0)[0]?) ∧
    (((Call.round gappedEdges)^[2] f.call).reads? = some 0 ∧ 0 < gappedEdges.size) ∧
    ((0, 1) ∈ slots gappedEdges) ∧
    ∀ k, 4 ≤ k → ((enter ⟨1⟩ gappedEdges).after k).next.1 = none := by
  obtain ⟨⟨_, hslots⟩, hcalls⟩ := calls_take_each_slot ⟨1⟩ gappedEdges
  obtain ⟨_, _, htarget, hread, _⟩ := hcalls 2
  refine ⟨⟨rfl, htarget (0, 0) rfl⟩, ⟨rfl, hread 2 0 rfl⟩, (hslots 0 1).2 ⟨_, rfl, by decide⟩, ?_⟩
  intro k hk
  rw [(hcalls k).1]
  exact List.getElem?_eq_none hk

end Frame

end ArtifactResolution
