import ArtifactResolution.Proofs.ArtifactSet
import ArtifactResolution.Proofs.LiveVariants
import Mathlib.Algebra.Order.BigOperators.Group.List
import Mathlib.Algebra.Order.Ring.Nat

namespace ArtifactResolution
set_option autoImplicit false

/-- A store in which each of the first `n` lists offers one artifact. -/
def VariantStore.filled (n : Nat) : VariantStore :=
  ⟨Array.replicate n [{ name := "", artifacts := [⟨"", ⟨""⟩⟩] }]⟩

namespace ArtifactSet

/-- Two trees with the same identities, owners and files at the same places, the variants apart. -/
inductive SameShape : ArtifactSet → ArtifactSet → Prop
  | component (id : ArtifactSetId) (owner : ComponentIdentifier)
      (variants variants' : VariantSource) :
      SameShape (component id owner variants) (component id owner variants')
  | files (id : ArtifactSetId) (dependency : FileDependencyId)
      (owner : Option ComponentIdentifier) (paths : List UnixPath) :
      SameShape (files id dependency owner paths) (files id dependency owner paths)
  | composite (id : ArtifactSetId) {members members' : List ArtifactSet}
      (h : List.Forall₂ SameShape members members') :
      SameShape (composite id members) (composite id members')
  | empty : SameShape empty empty

theorem sameShape_snapshot (s : VariantStore) (set : ArtifactSet) :
    SameShape set (set.snapshot s) := by
  induction set using ArtifactSet.induction with
  | component id owner variants => exact .component id owner variants (variants.freeze s)
  | files id dependency owner paths => exact .files id dependency owner paths
  | composite id members ih =>
    rw [snapshot]
    exact .composite id (forall₂_snapshots s ih)
  | empty => exact .empty

/-- How many artifacts are taken when every component takes part with its first candidate. -/
def count (s : VariantStore) (set : ArtifactSet) : Nat :=
  (set.select s .acceptAll .first).toList.length

theorem count_composite (s : VariantStore) (id : ArtifactSetId) (members : List ArtifactSet) :
    count s (composite id members) = (members.map (count s)).sum := by
  rw [count, toList_select_composite, List.length_flatMap]
  rfl

theorem count_live (s : VariantStore) (id : ArtifactSetId) (owner : ComponentIdentifier)
    (handle : LiveVariants) :
    count s (component id owner (.live handle)) =
      (s.read handle).head?.elim 0 fun v => v.artifacts.length := by
  have hselect : (component id owner (.live handle)).select s .acceptAll .first =
      VariantSelector.first.resolve (some owner) (s.read handle) := rfl
  rw [count, hselect, VariantSelector.resolve, VariantSelector.first]
  cases (s.read handle).head? with
  | none => rfl
  | some v => simp [ResolvedSet.ofVariant]

theorem count_live_empty (id : ArtifactSetId) (owner : ComponentIdentifier)
    (handle : LiveVariants) : count ∅ (component id owner (.live handle)) = 0 := by
  rw [count_live]
  rfl

theorem count_live_filled (id : ArtifactSetId) (owner : ComponentIdentifier)
    {handle : LiveVariants} {n : Nat} (h : handle.cell < n) :
    count (.filled n) (component id owner (.live handle)) = 1 := by
  rw [count_live]
  simp [VariantStore.filled, VariantStore.read, h]

theorem count_empty_le_filled (n : Nat) (set : ArtifactSet) :
    count ∅ set ≤ count (.filled n) set := by
  induction set using ArtifactSet.induction with
  | component id owner variants =>
    cases variants with
    | live handle =>
      rw [count_live_empty]
      exact Nat.zero_le _
    | frozen variants => exact Nat.le_refl _
  | files id dependency owner paths => exact Nat.le_refl _
  | composite id members ih =>
    rw [count_composite, count_composite]
    exact List.sum_le_sum ih
  | empty => exact Nat.le_refl _

theorem exists_count_lt {set : ArtifactSet} (h : ¬set.isSnapshot) :
    ∃ n, count ∅ set < count (.filled n) set := by
  induction set using ArtifactSet.induction with
  | component id owner variants =>
    cases variants with
    | live handle =>
      refine ⟨handle.cell + 1, ?_⟩
      rw [count_live_empty, count_live_filled id owner (Nat.lt_succ_self _)]
      exact Nat.one_pos
    | frozen variants => exact absurd rfl h
  | files id dependency owner paths => exact absurd rfl h
  | composite id members ih =>
    rw [isSnapshot, areSnapshots_eq_all, List.all_eq_true] at h
    push Not at h
    obtain ⟨m, hm, hlive⟩ := h
    obtain ⟨n, hn⟩ := ih m hm hlive
    refine ⟨n, ?_⟩
    rw [count_composite, count_composite]
    exact List.sum_lt_sum _ _ (fun m' _ => count_empty_le_filled n m') ⟨m, hm, hn⟩
  | empty => exact absurd rfl h

theorem isSnapshot_iff_select_eq (set : ArtifactSet) :
    set.isSnapshot ↔ ∀ s s' filter selector,
      set.select s filter selector = set.select s' filter selector := by
  constructor
  · exact select_eq_of_isSnapshot
  · intro h
    by_contra hlive
    obtain ⟨n, hn⟩ := exists_count_lt hlive
    rw [count, count, h ∅ (.filled n)] at hn
    exact Nat.lt_irrefl _ hn

/-- A snapshot has the identity and the shape of its set, keeps what was selected in the state in
which it was taken, and a second snapshot, taken in any state, is the same. The sets that pass as
snapshots are those whose selection no state of the live lists, and so no update, can change. -/
theorem snapshot_keeps (s : VariantStore) (set : ArtifactSet) :
    (set.snapshot s).isSnapshot ∧
    (set.snapshot s).id? = set.id? ∧
    SameShape set (set.snapshot s) ∧
    (∀ s', (set.snapshot s).snapshot s' = set.snapshot s) ∧
    (∀ s' filter selector,
      (set.snapshot s).select s' filter selector = set.select s filter selector) ∧
    (set.isSnapshot ↔ ∀ s s' filter selector,
      set.select s filter selector = set.select s' filter selector) ∧
    (set.isSnapshot → ∀ s updates filter selector,
      set.select (VariantStore.updateAll s updates) filter selector =
        set.select s filter selector) := by
  refine ⟨isSnapshot_snapshot s set, id?_snapshot s set, sameShape_snapshot s set, ?_, ?_,
    isSnapshot_iff_select_eq set, ?_⟩
  · exact fun s' => snapshot_of_isSnapshot (isSnapshot_snapshot s set) s'
  · exact fun s' filter selector => select_snapshot s s' filter selector set
  · exact fun h s updates filter selector =>
      select_eq_of_isSnapshot h (s.updateAll updates) s filter selector

end ArtifactSet

end ArtifactResolution
