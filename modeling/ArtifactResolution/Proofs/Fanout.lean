import ArtifactResolution.Proofs.Visitor

namespace ArtifactResolution
set_option autoImplicit false

/-- The first refusal among the answers; if there is none, nothing is refused. -/
def firstRefusal (answers : List Answer) : Answer :=
  (answers.find? fun answer => !answer.isOk).getD (.ok ())

namespace Visitor

section Embedding
variable {σ τ : Type} [Visitor σ] [Visitor τ] {f : σ → τ}
  (hreceive : ∀ (v : σ) (c : Callback), receive (f v) c = (receive v c).map f id)
include hreceive

theorem run_embedded (v : σ) (cs : List Callback) : run (f v) cs = (run v cs).map f id := by
  induction cs generalizing v with
  | nil => rfl
  | cons c cs ih =>
    rw [run_cons, run_cons, hreceive, Prod.map_fst, ih]
    rfl

theorem accepted_embedded (v : σ) (cs : List Callback) : accepted (f v) cs = accepted v cs := by
  rw [accepted, run_embedded hreceive]
  rfl

end Embedding

/-- Visitors of several kinds, each of which is told as its kind is. -/
instance {ι : Type} {σ : ι → Type} [∀ i, Visitor (σ i)] : Visitor ((i : ι) × σ i) where
  receive v c := (receive v.2 c).map (Sigma.mk v.1) id

section Kinds
variable {ι : Type} {σ : ι → Type} [∀ i, Visitor (σ i)]

theorem run_kind (v : (i : ι) × σ i) (cs : List Callback) :
    run v cs = (run v.2 cs).map (Sigma.mk v.1) id :=
  run_embedded (f := Sigma.mk v.1) (fun _ _ => rfl) v.2 cs

end Kinds

section Group
variable {σ : Type} [Visitor σ]

/-- What none of the visitors refuses, if each is told alone what those before it have not refused. -/
def passed : List σ → List Callback → List Callback
  | [], cs => cs
  | v :: vs, cs => passed vs (accepted v cs)

theorem receiveAll_cons (v : σ) (vs : List σ) (c : Callback) :
    receiveAll (v :: vs) c =
      match receive v c with
      | (v', .ok ()) => (receiveAll vs c).map (v' :: ·) id
      | (v', .error e) => (v' :: vs, .error e) :=
  rfl

theorem receiveAll_append (vs ws : List σ) (c : Callback) :
    receiveAll (vs ++ ws) c =
      match receiveAll vs c with
      | (vs', .ok ()) => (receiveAll ws c).map (vs' ++ ·) id
      | (vs', .error e) => (vs' ++ ws, .error e) := by
  induction vs with
  | nil => rfl
  | cons v vs ih =>
    rw [List.cons_append, receiveAll_cons, receiveAll_cons]
    obtain ⟨v', answer⟩ := receive v c
    cases answer with
    | error e => rfl
    | ok =>
      simp only [ih]
      obtain ⟨vs', answer⟩ := receiveAll vs c
      cases answer with
      | error e => rfl
      | ok => rfl

theorem answer_receiveAll (vs : List σ) (c : Callback) :
    (receiveAll vs c).2 = firstRefusal (vs.map fun v => (receive v c).2) := by
  induction vs with
  | nil => rfl
  | cons v vs ih =>
    rw [receiveAll_cons, List.map_cons, firstRefusal, List.find?_cons]
    obtain ⟨v', answer⟩ := receive v c
    cases answer with
    | error e => rfl
    | ok => exact ih

/-- The first of several visitors goes its own way, and the others are told what it accepts. -/
theorem run_group_cons (v : σ) (vs : List σ) (cs : List Callback) :
    (run (v :: vs) cs).1 = (run v cs).1 :: (run vs (accepted v cs)).1 := by
  induction cs generalizing v vs with
  | nil => rfl
  | cons c cs ih =>
    have hgroup : receive (v :: vs) c = receiveAll (v :: vs) c := rfl
    rw [run_cons, run_cons, accepted_cons, hgroup, receiveAll_cons]
    obtain ⟨v', answer⟩ := receive v c
    cases answer with
    | error e => exact ih v' vs
    | ok => exact ih v' (receive vs c).1

theorem run_group (vs : List σ) (cs : List Callback) :
    (run vs cs).1 = vs.mapIdx fun k v => (run v (passed (vs.take k) cs)).1 := by
  induction vs generalizing cs with
  | nil =>
    induction cs with
    | nil => rfl
    | cons c cs ih => exact ih
  | cons v vs ih =>
    rw [run_group_cons, List.mapIdx_cons, ih]
    rfl

theorem answer_group (vs : List σ) (before : List Callback) (c : Callback)
    (after : List Callback) :
    (run vs (before ++ c :: after)).2[before.length]? =
      some (firstRefusal (vs.mapIdx fun k v =>
        (receive (run v (passed (vs.take k) before)).1 c).2)) := by
  have hanswer : (receive (run vs before).1 c).2 = _ := answer_receiveAll (run vs before).1 c
  rw [getElem?_answers, hanswer, run_group, List.mapIdx_eq_zipIdx_map, List.mapIdx_eq_zipIdx_map,
    List.map_map]
  rfl

end Group

end Visitor

namespace Fanout
variable {σ : Type}

/-- What holds of visitors, and of a group whenever it holds of its members, holds of all groups. -/
@[elab_as_elim]
theorem induction {p : Fanout σ → Prop} (visitor : ∀ v, p (.visitor v))
    (members : ∀ ms, (∀ m ∈ ms, p m) → p (.members ms)) (m : Fanout σ) : p m :=
  @Fanout.rec σ p (fun ms => ∀ m ∈ ms, p m) visitor members (by simp)
    (fun _ _ hm hms => by simpa using ⟨hm, hms⟩) m

variable [Visitor σ]

theorem leavesAll_receiveAll {ms : List (Fanout σ)} {c : Callback}
    (h : ∀ m ∈ ms, Visitor.receiveAll m.leaves c = (receive m c).map leaves id) :
    Visitor.receiveAll (leavesAll ms) c = (receiveAll ms c).map leavesAll id := by
  induction ms with
  | nil => simp [leavesAll, receiveAll, Visitor.receiveAll]
  | cons m ms ih =>
    obtain ⟨hm, hms⟩ := List.forall_mem_cons.1 h
    rw [leavesAll, receiveAll, Visitor.receiveAll_append, hm, ih hms]
    obtain ⟨m', answer⟩ := receive m c
    cases answer with
    | error e => simp [leavesAll]
    | ok => simp [leavesAll, Prod.map]

theorem leaves_receive (m : Fanout σ) (c : Callback) :
    Visitor.receiveAll m.leaves c = (receive m c).map leaves id := by
  induction m using Fanout.induction with
  | visitor v =>
    rw [leaves, receive, Visitor.receiveAll_cons]
    obtain ⟨v', answer⟩ := Visitor.receive v c
    cases answer with
    | error e => simp [leaves]
    | ok => simp [leaves, Visitor.receiveAll]
  | members ms ih =>
    rw [leaves, receive, leavesAll_receiveAll ih]
    simp [leaves, Prod.map]

end Fanout

namespace Visitor

/-- Visitors of any kinds are told together. Each callback is answered by the first refusal among
the answers that they would give if each had been told alone what those before it have not refused,
and this is also how each of them comes to its state. Groups within groups answer, and leave their
visitors, like one group of all their visitors. -/
theorem told_in_turn {ι : Type} {σ : ι → Type} [∀ i, Visitor (σ i)] :
    (∀ (vs : List ((i : ι) × σ i)) (before : List Callback) (c : Callback) (after : List Callback),
      (run vs (before ++ c :: after)).2[before.length]? =
        some (firstRefusal (vs.mapIdx fun k v =>
          (receive (run v.2 (passed (vs.take k) before)).1 c).2))) ∧
    (∀ (vs : List ((i : ι) × σ i)) (cs : List Callback),
      (run vs cs).1 = vs.mapIdx fun k v => ⟨v.1, (run v.2 (passed (vs.take k) cs)).1⟩) ∧
    (∀ (m : Fanout ((i : ι) × σ i)) (cs : List Callback),
      (run m cs).2 = (run m.leaves cs).2 ∧ (run m cs).1.leaves = (run m.leaves cs).1) := by
  refine ⟨?_, ?_, ?_⟩
  · intro vs before c after
    rw [answer_group]
    simp only [run_kind]
    rfl
  · intro vs cs
    rw [run_group]
    simp only [run_kind]
    rfl
  · intro m cs
    have hleaves : run m.leaves cs = (run m cs).map Fanout.leaves id :=
      run_embedded Fanout.leaves_receive m cs
    rw [hleaves]
    exact ⟨rfl, rfl⟩

end Visitor

end ArtifactResolution
