import ArtifactResolution.ArtifactSet
import ArtifactResolution.Proofs.ResolvedSet
import Mathlib.Data.List.Forall2

namespace ArtifactResolution
set_option autoImplicit false

theorem eq_of_forall₂ {α β : Type} {R : α → β → Prop} {as : List α} {bs bs' : List β}
    (hR : ∀ a ∈ as, ∀ b b', R a b → R a b' → b = b') (h : List.Forall₂ R as bs)
    (h' : List.Forall₂ R as bs') : bs = bs' := by
  induction h generalizing bs' with
  | nil =>
    cases h'
    rfl
  | cons hb _ ih =>
    cases h' with
    | cons hb' hbs' =>
      rw [hR _ List.mem_cons_self _ _ hb hb',
        ih (fun a ha => hR a (List.mem_cons_of_mem _ ha)) hbs']

theorem VariantSelector.owner_of_mem_resolve {selector : VariantSelector}
    {owner : Option ComponentIdentifier} {candidates : List Variant} {a : ResolvedArtifact}
    (h : a ∈ (selector.resolve owner candidates).toList) : a.owner = owner := by
  rw [resolve] at h
  split at h
  · exact ResolvedSet.owner_of_mem_ofVariant h
  · simp at h

namespace ArtifactSet

/-- What holds of components, of files and of the empty set, and of a composite whenever it holds of
its members, holds of every set. -/
@[elab_as_elim]
theorem induction {p : ArtifactSet → Prop}
    (component : ∀ id owner variants, p (.component id owner variants))
    (files : ∀ id dependency owner paths, p (.files id dependency owner paths))
    (composite : ∀ id members, (∀ m ∈ members, p m) → p (.composite id members))
    (empty : p .empty) (set : ArtifactSet) : p set :=
  @ArtifactSet.rec p (fun members => ∀ m ∈ members, p m) component files composite empty (by simp)
    (fun _ _ hset hsets => by simpa using ⟨hset, hsets⟩) set

variable (s : VariantStore) (filter : ComponentFilter) (selector : VariantSelector)

theorem toList_select_composite (id : ArtifactSetId) (members : List ArtifactSet) :
    ((composite id members).select s filter selector).toList =
      members.flatMap fun m => (m.select s filter selector).toList := by
  rw [select, ResolvedSet.toList_compose, selectAll_eq_map, List.flatMap_map]

theorem toList_selectFiles (owner : Option ComponentIdentifier) (paths : List UnixPath) :
    (selectFiles owner paths filter selector).toList =
      if filter.accepts owner then
        paths.flatMap fun file => (selector.resolve owner [Variant.ofFile file]).toList
      else [] := by
  rw [selectFiles]
  split
  · rw [ResolvedSet.toList_compose, List.flatMap_map]
  · rfl

theorem select_artifacts (d : FileDependency) (id : ArtifactSetId) :
    (d.artifacts id).select s filter selector = selectFiles d.owner d.files filter selector := by
  rw [FileDependency.artifacts, select]

@[simp] theorem isSnapshot_snapshot (s : VariantStore) (set : ArtifactSet) :
    (set.snapshot s).isSnapshot := by
  induction set using ArtifactSet.induction with
  | component id owner variants => simp [snapshot, isSnapshot]
  | files id dependency owner paths => simp [snapshot, isSnapshot]
  | composite id members ih => simpa [snapshot, isSnapshot] using ih
  | empty => simp [snapshot, isSnapshot]

@[simp] theorem select_snapshot (s s' : VariantStore) (filter : ComponentFilter)
    (selector : VariantSelector) (set : ArtifactSet) :
    (set.snapshot s).select s' filter selector = set.select s filter selector := by
  induction set using ArtifactSet.induction with
  | component id owner variants => simp [snapshot, select]
  | files id dependency owner paths => simp [snapshot, select]
  | composite id members ih =>
    rw [snapshot, select, select, selectAll_eq_map, selectAll_eq_map, snapshots_eq_map, List.map_map]
    exact congrArg ResolvedSet.compose (List.map_congr_left ih)
  | empty => simp [snapshot, select]

theorem snapshot_of_isSnapshot {set : ArtifactSet} (h : set.isSnapshot) (s : VariantStore) :
    set.snapshot s = set := by
  induction set using ArtifactSet.induction with
  | component id owner variants =>
    cases variants with
    | live handle => simp [isSnapshot, VariantSource.isFrozen] at h
    | frozen variants => rfl
  | files id dependency owner paths => rfl
  | composite key members ih =>
    rw [isSnapshot, areSnapshots_eq_all, List.all_eq_true] at h
    have hmembers : ∀ m ∈ members, m.snapshot s = id m := fun m hm => ih m hm (h m hm)
    rw [snapshot, snapshots_eq_map, List.map_congr_left hmembers, List.map_id]
  | empty => rfl

theorem select_eq_of_isSnapshot {set : ArtifactSet} (h : set.isSnapshot) (s s' : VariantStore)
    (filter : ComponentFilter) (selector : VariantSelector) :
    set.select s filter selector = set.select s' filter selector := by
  rw [← select_snapshot s s' filter selector set, snapshot_of_isSnapshot h]

/-- The second tree is a copy of the first. In place of a live list it has the variants that the
handle names in the store; everything else is the same. -/
inductive Copied (s : VariantStore) : ArtifactSet → ArtifactSet → Prop
  | live (id : ArtifactSetId) (owner : ComponentIdentifier) (handle : LiveVariants) :
      Copied s (component id owner (.live handle)) (component id owner (.frozen (s.read handle)))
  | frozen (id : ArtifactSetId) (owner : ComponentIdentifier) (variants : List Variant) :
      Copied s (component id owner (.frozen variants)) (component id owner (.frozen variants))
  | files (id : ArtifactSetId) (dependency : FileDependencyId)
      (owner : Option ComponentIdentifier) (paths : List UnixPath) :
      Copied s (files id dependency owner paths) (files id dependency owner paths)
  | composite (id : ArtifactSetId) {members copies : List ArtifactSet}
      (h : List.Forall₂ (Copied s) members copies) :
      Copied s (composite id members) (composite id copies)
  | empty : Copied s empty empty

theorem forall₂_snapshots {R : ArtifactSet → ArtifactSet → Prop} {members : List ArtifactSet}
    (h : ∀ m ∈ members, R m (m.snapshot s)) : List.Forall₂ R members (snapshots s members) := by
  rw [snapshots_eq_map, List.forall₂_map_right_iff, List.forall₂_same]
  exact h

theorem copied_snapshot (s : VariantStore) (set : ArtifactSet) :
    Copied s set (set.snapshot s) := by
  induction set using ArtifactSet.induction with
  | component id owner variants =>
    cases variants with
    | live handle => exact .live id owner handle
    | frozen variants => exact .frozen id owner variants
  | files id dependency owner paths => exact .files id dependency owner paths
  | composite id members ih =>
    rw [snapshot]
    exact .composite id (forall₂_snapshots s ih)
  | empty => exact .empty

theorem Copied.unique {s : VariantStore} {set copy copy' : ArtifactSet} (h : Copied s set copy)
    (h' : Copied s set copy') : copy = copy' := by
  induction set using ArtifactSet.induction generalizing copy copy' with
  | component => cases h <;> cases h' <;> rfl
  | files =>
    cases h
    cases h'
    rfl
  | composite id members ih =>
    cases h with
    | composite _ hcopies =>
      cases h' with
      | composite _ hcopies' => rw [eq_of_forall₂ (fun m hm _ _ => ih m hm) hcopies hcopies']
  | empty =>
    cases h
    cases h'
    rfl

/-- The set `frozen` is what the set `live` was while the lists were those of `s`: every component
set keeps the variants that its handle named then, and from now on the same is selected as then. -/
structure FrozenAt (s : VariantStore) (live frozen : ArtifactSet) : Prop where
  id_eq : frozen.id? = live.id?
  isSnapshot : frozen.isSnapshot
  copied : Copied s live frozen
  select_eq : ∀ s' filter selector,
    frozen.select s' filter selector = live.select s filter selector

theorem frozenAt_snapshot (s : VariantStore) (set : ArtifactSet) :
    FrozenAt s set (set.snapshot s) where
  id_eq := id?_snapshot s set
  isSnapshot := isSnapshot_snapshot s set
  copied := copied_snapshot s set
  select_eq s' filter selector := select_snapshot s s' filter selector set

end ArtifactSet

end ArtifactResolution
