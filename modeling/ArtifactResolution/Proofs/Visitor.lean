import ArtifactResolution.Proofs.FirstOccurrences
import ArtifactResolution.Visitor

namespace ArtifactResolution
set_option autoImplicit false

namespace Visitor
variable {σ : Type} [Visitor σ]

def accepted (v : σ) (cs : List Callback) : List Callback :=
  ((cs.zip (run v cs).2).filter fun e => e.2.isOk).map (·.1)

theorem run_cons (v : σ) (c : Callback) (cs : List Callback) :
    run v (c :: cs) = ((run (receive v c).1 cs).1, (receive v c).2 :: (run (receive v c).1 cs).2) :=
  rfl

theorem run_append (v : σ) (cs ds : List Callback) :
    run v (cs ++ ds) = ((run (run v cs).1 ds).1, (run v cs).2 ++ (run (run v cs).1 ds).2) := by
  induction cs generalizing v with
  | nil => rfl
  | cons c cs ih => simp only [List.cons_append, run_cons, ih]

theorem length_answers (v : σ) (cs : List Callback) : (run v cs).2.length = cs.length := by
  induction cs generalizing v with
  | nil => rfl
  | cons c cs ih => simp only [run_cons, List.length_cons, ih]

theorem accepted_append (v : σ) (cs ds : List Callback) :
    accepted v (cs ++ ds) = accepted v cs ++ accepted (run v cs).1 ds := by
  simp only [accepted, run_append]
  rw [List.zip_append (length_answers v cs).symm, List.filter_append, List.map_append]

theorem accepted_singleton (v : σ) (c : Callback) :
    accepted v [c] = if (receive v c).2.isOk then [c] else [] := by
  by_cases h : (receive v c).2.isOk <;> simp [accepted, run, h]

theorem accepted_cons (v : σ) (c : Callback) (cs : List Callback) :
    accepted v (c :: cs) =
      if (receive v c).2.isOk then c :: accepted (receive v c).1 cs
      else accepted (receive v c).1 cs := by
  have happend := accepted_append v [c] cs
  rw [List.singleton_append, accepted_singleton] at happend
  rw [happend]
  split <;> rfl

theorem getElem?_answers (v : σ) (before : List Callback) (c : Callback) (after : List Callback) :
    (run v (before ++ c :: after)).2[before.length]? = some (receive (run v before).1 c).2 := by
  rw [run_append, run_cons, ← length_answers v before, List.getElem?_append_right (Nat.le_refl _),
    Nat.sub_self, List.getElem?_cons_zero]

/-- When no refusal changes a state, the refused callbacks can be left out of a run. -/
theorem run_accepted (hkeeps : ∀ (v : σ) (c : Callback), (receive v c).2.isOk = false →
    (receive v c).1 = v) (v : σ) (cs : List Callback) :
    run v (accepted v cs) = ((run v cs).1, (run v cs).2.filter (·.isOk)) := by
  induction cs generalizing v with
  | nil => rfl
  | cons c cs ih =>
    rw [accepted_cons, run_cons, List.filter_cons]
    cases hanswer : (receive v c).2.isOk with
    | true =>
      rw [if_pos rfl, if_pos rfl, run_cons, ih]
    | false =>
      have hrest := ih (receive v c).1
      rw [hkeeps v c hanswer] at hrest ⊢
      exact hrest

theorem accepted_subset (v : σ) (cs : List Callback) : accepted v cs ⊆ cs := by
  intro c hc
  obtain ⟨e, he, rfl⟩ := List.mem_map.1 hc
  exact (List.of_mem_zip (List.mem_filter.1 he).1).1

end Visitor

namespace Callback

def start? : Callback → Option (Graph × NodeId)
  | start graph root => some (graph, root)
  | visitNode .. => none
  | visitFile .. => none
  | finish => none

def delivery? : Callback → Option (NodeId × ArtifactSet)
  | start .. => none
  | visitNode _ target set => some (target.id, set)
  | visitFile source _ set => some (source.id, set)
  | finish => none

def starts (cs : List Callback) : List (Graph × NodeId) := cs.filterMap start?

def deliveries (cs : List Callback) : List (NodeId × ArtifactSet) := cs.filterMap delivery?

def idsFor (node : NodeId) (cs : List Callback) : List ArtifactSetId :=
  (deliveries cs).filterMap fun d => if d.1 = node then d.2.id? else none

def identified (cs : List Callback) : List (ArtifactSetId × ArtifactSet) :=
  (deliveries cs).filterMap fun d => d.2.id?.map fun id => (id, d.2)

def lastSet? (cs : List Callback) (id : ArtifactSetId) : Option ArtifactSet :=
  (identified cs).reverse.lookup id

variable {callback : Callback} {node : NodeId} {set : ArtifactSet}

theorem start?_of_delivery (h : callback.delivery? = some (node, set)) : callback.start? = none := by
  cases callback with
  | start => cases h
  | visitNode => rfl
  | visitFile => rfl
  | finish => rfl

theorem starts_concat (cs : List Callback) (callback : Callback) :
    starts (cs ++ [callback]) = starts cs ++ callback.start?.toList := by
  rw [starts, List.filterMap_append]
  cases h : callback.start? <;> simp [starts, h]

theorem starts_concat_of_none {cs : List Callback} (h : callback.start? = none) :
    starts (cs ++ [callback]) = starts cs := by
  rw [starts_concat, h]
  exact List.append_nil _

theorem deliveries_concat (cs : List Callback) (callback : Callback) :
    deliveries (cs ++ [callback]) = deliveries cs ++ callback.delivery?.toList := by
  rw [deliveries, List.filterMap_append]
  cases h : callback.delivery? <;> simp [deliveries, h]

theorem deliveries_concat_of_none {cs : List Callback} (h : callback.delivery? = none) :
    deliveries (cs ++ [callback]) = deliveries cs := by
  rw [deliveries_concat, h]
  exact List.append_nil _

theorem mem_deliveries {cs : List Callback} {d : NodeId × ArtifactSet} (hmem : callback ∈ cs)
    (h : callback.delivery? = some d) : d ∈ deliveries cs :=
  List.mem_filterMap.2 ⟨callback, hmem, h⟩

theorem mem_idsFor_iff {cs : List Callback} {id : ArtifactSetId} :
    id ∈ idsFor node cs ↔ ∃ set, (node, set) ∈ deliveries cs ∧ set.id? = some id := by
  rw [idsFor, List.mem_filterMap]
  constructor
  · rintro ⟨⟨node', set⟩, hmem, hid⟩
    split at hid
    · next hnode =>
      cases hnode
      exact ⟨set, hmem, hid⟩
    · cases hid
  · rintro ⟨set, hmem, hid⟩
    exact ⟨(node, set), hmem, by simpa using hid⟩

theorem mem_identified_iff {cs : List Callback} {id : ArtifactSetId} :
    (id, set) ∈ identified cs ↔ ∃ node, (node, set) ∈ deliveries cs ∧ set.id? = some id := by
  rw [identified, List.mem_filterMap]
  constructor
  · rintro ⟨⟨node, set⟩, hmem, hid⟩
    obtain ⟨id, hset, heq⟩ := Option.map_eq_some_iff.1 hid
    cases heq
    exact ⟨node, hmem, hset⟩
  · rintro ⟨node, hmem, hset⟩
    exact ⟨(node, set), hmem, by rw [hset]; rfl⟩

theorem mem_of_lastSet? {cs : List Callback} {id : ArtifactSetId} (h : lastSet? cs id = some set) :
    (id, set) ∈ identified cs :=
  List.mem_reverse.1 (mem_of_lookup h)

theorem id?_of_lastSet? {cs : List Callback} {id : ArtifactSetId} (h : lastSet? cs id = some set) :
    set.id? = some id := by
  obtain ⟨_, _, hid⟩ := mem_identified_iff.1 (mem_of_lastSet? h)
  exact hid

theorem lastSet?_append (cs ds : List Callback) (id : ArtifactSetId) :
    lastSet? (cs ++ ds) id = (lastSet? ds id).or (lastSet? cs id) := by
  rw [lastSet?, identified, deliveries, List.filterMap_append, List.filterMap_append,
    List.reverse_append, List.lookup_append]
  rfl

end Callback

end ArtifactResolution
