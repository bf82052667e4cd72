import ArtifactResolution.Proofs.ResolvedSet
import Mathlib.Data.List.Basic

namespace ArtifactResolution
set_option autoImplicit false

namespace ResolvedSet

/-- The ways in which a set is made; compositions nest to any depth. -/
inductive Construction where
  | empty
  | artifacts (as : List ResolvedArtifact)
  | variant (owner : Option ComponentIdentifier) (v : Variant)
  | composition (members : List Construction)

/-- No chunk is empty, and the form of the set is the one that its chunks call for. -/
structure Canonical (s : ResolvedSet) : Prop where
  chunk_ne_nil : ∀ chunk ∈ s.chunks, chunk ≠ []
  ofChunks_chunks : ofChunks s.chunks = s

theorem canonical_empty : Canonical ∅ where
  chunk_ne_nil := by simp [EmptyCollection.emptyCollection, chunks]
  ofChunks_chunks := rfl

theorem canonical_ofList (as : List ResolvedArtifact) : Canonical (ofList as) := by
  cases as with
  | nil => exact canonical_empty
  | cons a as => exact ⟨by simp [ofList, chunks], rfl⟩

theorem canonical_compose {sets : List ResolvedSet} (h : ∀ s ∈ sets, s.Canonical) :
    (compose sets).Canonical where
  chunk_ne_nil chunk hchunk := by
    rw [chunks_compose] at hchunk
    obtain ⟨s, hs, hchunk⟩ := List.mem_flatMap.1 hchunk
    exact (h s hs).chunk_ne_nil chunk hchunk
  ofChunks_chunks := by rw [chunks_compose, compose]

theorem Canonical.two_le_length {s : ResolvedSet} (h : s.Canonical)
    {chunks : List (List ResolvedArtifact)} (hs : s = composite chunks) : 2 ≤ chunks.length := by
  subst hs
  have hform : ofChunks chunks = composite chunks := h.ofChunks_chunks
  match chunks with
  | [] => cases hform
  | [_] => cases hform
  | _ :: _ :: _ => simp

theorem isEmpty_ofChunks (chunks : List (List ResolvedArtifact)) :
    (ofChunks chunks).isEmpty ↔ chunks = [] := by
  match chunks with
  | [] => simp [ofChunks, isEmpty]
  | [_] => simp [ofChunks, isEmpty]
  | _ :: _ :: _ => simp [ofChunks, isEmpty]

theorem Canonical.isEmpty_iff {s : ResolvedSet} (h : s.Canonical) :
    s.isEmpty ↔ s.toList = [] := by
  have hchunks : s.isEmpty ↔ s.chunks = [] := by
    rw [← isEmpty_ofChunks, h.ofChunks_chunks]
  rw [hchunks, toList, List.flatten_eq_nil_iff]
  constructor
  · intro hnil
    simp [hnil]
  · intro hnil
    exact List.eq_nil_iff_forall_not_mem.2 fun chunk hchunk =>
      h.chunk_ne_nil chunk hchunk (hnil chunk hchunk)

theorem size_eq_length (s : ResolvedSet) : s.size = s.toList.length := by
  rw [size, toList, List.length_flatten, List.sum_eq_foldl, List.foldl_map]

theorem equiv_empty_iff {s : ResolvedSet} : s ≈ ∅ ↔ s.toList = [] := List.map_eq_nil_iff

theorem compose_congr {sets sets' : List ResolvedSet}
    (h : sets.flatMap chunks = sets'.flatMap chunks) : compose sets = compose sets' :=
  congrArg ofChunks h

theorem compose_map_compose (groups : List (List ResolvedSet)) :
    compose (groups.map compose) = compose groups.flatten := by
  apply compose_congr
  rw [List.flatMap_map, List.flatten_eq_flatMap, List.flatMap_assoc]
  exact List.flatMap_congr fun sets _ => chunks_compose sets

theorem compose_map_compose_map {α β : Type} (parts : α → List β) (f : β → ResolvedSet)
    (xs : List α) :
    compose (xs.map fun x => compose ((parts x).map f)) = compose ((xs.flatMap parts).map f) := by
  rw [List.map_flatMap, List.flatMap_def, ← compose_map_compose, List.map_map]
  rfl

theorem compose_filter_nonempty (sets : List ResolvedSet) :
    compose (sets.filter fun s => !s.isEmpty) = compose sets := by
  apply compose_congr
  induction sets with
  | nil => rfl
  | cons s sets ih =>
    cases s with
    | empty => exact ih
    | artifacts chunk => exact congrArg (chunk :: ·) ih
    | composite chunks => exact congrArg (chunks ++ ·) ih

theorem Canonical.compose_singleton {s : ResolvedSet} (h : s.Canonical) : compose [s] = s := by
  rw [compose, List.flatMap_singleton, h.ofChunks_chunks]

namespace Construction

/-- What holds of the sets that are not composed, and of a composition whenever it holds of its
members, holds of every construction. -/
@[elab_as_elim]
theorem induction {p : Construction → Prop} (empty : p .empty) (artifacts : ∀ as, p (.artifacts as))
    (variant : ∀ owner v, p (.variant owner v))
    (composition : ∀ members, (∀ m ∈ members, p m) → p (.composition members))
    (c : Construction) : p c :=
  @Construction.rec p (fun members => ∀ m ∈ members, p m) empty artifacts variant composition
    (by simp) (fun _ _ hc hcs => by simpa using ⟨hc, hcs⟩) c

mutual

def build : Construction → ResolvedSet
  | empty => ∅
  | artifacts as => ofList as
  | variant owner v => ofVariant owner v
  | composition members => compose (buildAll members)

def buildAll : List Construction → List ResolvedSet
  | [] => []
  | c :: cs => build c :: buildAll cs

end

mutual

/-- The parts of a set that are not composed themselves, from left to right. -/
def leaves : Construction → List Construction
  | composition members => leavesAll members
  | leaf => [leaf]

def leavesAll : List Construction → List Construction
  | [] => []
  | c :: cs => leaves c ++ leavesAll cs

end

@[simp] theorem buildAll_eq_map (cs : List Construction) : buildAll cs = cs.map build := by
  induction cs with
  | nil => rfl
  | cons c cs ih => simp [buildAll, ih]

@[simp] theorem leavesAll_eq_flatMap (cs : List Construction) :
    leavesAll cs = cs.flatMap leaves := by
  induction cs with
  | nil => rfl
  | cons c cs ih => simp [leavesAll, ih]

theorem canonical_build (c : Construction) : c.build.Canonical := by
  induction c using Construction.induction with
  | empty => exact canonical_empty
  | artifacts as => exact canonical_ofList as
  | variant owner v => exact canonical_ofList _
  | composition members ih =>
    rw [build, buildAll_eq_map]
    apply canonical_compose
    intro s hs
    obtain ⟨m, hm, rfl⟩ := List.mem_map.1 hs
    exact ih m hm

theorem build_eq_compose_leaves (c : Construction) : c.build = compose (c.leaves.map build) := by
  induction c using Construction.induction with
  | empty => rfl
  | artifacts as => exact (canonical_build (.artifacts as)).compose_singleton.symm
  | variant owner v => exact (canonical_build (.variant owner v)).compose_singleton.symm
  | composition members ih =>
    calc (composition members).build
        = compose (members.map fun m => compose (m.leaves.map build)) := by
          rw [build, buildAll_eq_map, List.map_congr_left ih]
      _ = compose ((members.flatMap leaves).map build) := compose_map_compose_map leaves build _
      _ = compose ((composition members).leaves.map build) := by
          rw [leaves, leavesAll_eq_flatMap]

theorem build_eq_of_leaves_eq {c c' : Construction} (h : c.leaves = c'.leaves) :
    c.build = c'.build := by
  rw [build_eq_compose_leaves c, build_eq_compose_leaves c', h]

/-- A set that is made in any way has no empty chunk and is composite with two chunks at least, so
its form tells whether it has artifacts. A composition has the chunks of its members one after the
other; how these are grouped, once or to any depth, and which empty ones stand among them does not
matter, and a set composed alone stays itself. -/
theorem build_represents (c : Construction) (members : List Construction) :
    let s := c.build
    let sets := members.map build
    (∀ chunk ∈ s.chunks, chunk ≠ []) ∧
    (∀ chunks, s = .composite chunks → 2 ≤ chunks.length) ∧
    (s.isEmpty ↔ s.size = 0) ∧
    (s.isEmpty ↔ s.toList = []) ∧
    (s.isEmpty ↔ s ≈ ∅) ∧
    s.size = s.toList.length ∧
    (compose sets).chunks = sets.flatMap chunks ∧
    (compose sets).toList = sets.flatMap toList ∧
    (∀ groups : List (List ResolvedSet), groups.flatten = sets →
      compose (groups.map compose) = compose sets) ∧
    (∀ regrouped : Construction, regrouped.leaves = members.flatMap leaves →
      regrouped.build = compose sets) ∧
    compose (sets.filter fun s => !s.isEmpty) = compose sets ∧
    compose [s] = s := by
  intro s sets
  have hs : s.Canonical := canonical_build c
  refine ⟨hs.chunk_ne_nil, fun _ => hs.two_le_length, ?_, hs.isEmpty_iff, ?_, size_eq_length s,
    chunks_compose sets, toList_compose sets, ?_, ?_, compose_filter_nonempty sets,
    hs.compose_singleton⟩
  · rw [hs.isEmpty_iff, size_eq_length, List.length_eq_zero_iff]
  · rw [hs.isEmpty_iff, equiv_empty_iff]
  · intro groups hgroups
    rw [compose_map_compose, hgroups]
  · intro regrouped hleaves
    have hmembers : (composition members).build = compose sets := by rw [build, buildAll_eq_map]
    rw [← hmembers]
    apply build_eq_of_leaves_eq
    rw [hleaves, leaves, leavesAll_eq_flatMap]

end Construction

end ResolvedSet

end ArtifactResolution
