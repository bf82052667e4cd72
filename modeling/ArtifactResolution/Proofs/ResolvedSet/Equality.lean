import ArtifactResolution.Proofs.ResolvedSet.Construction
import ArtifactResolution.Proofs.UnixPath
import Mathlib.Data.List.Forall2

namespace ArtifactResolution
set_option autoImplicit false

/-- The artifacts agree in everything, the spelling of the path apart. -/
structure SameArtifact (a b : ResolvedArtifact) : Prop where
  name_eq : a.name = b.name
  owner_eq : a.owner = b.owner
  variant_eq : a.variant = b.variant
  file_same : UnixPath.SamePath a.file.text.toList b.file.text.toList

theorem content_eq_iff_sameArtifact {a b : ResolvedArtifact} :
    a.content = b.content ↔ SameArtifact a b := by
  have hfile : a.file.parts = b.file.parts ↔
      UnixPath.SamePath a.file.text.toList b.file.text.toList := UnixPath.equiv_iff_samePath
  rw [ResolvedArtifact.content, ResolvedArtifact.content, Prod.mk.injEq, Prod.mk.injEq,
    Prod.mk.injEq, hfile]
  constructor
  · rintro ⟨hname, hfile, howner, hvariant⟩
    exact ⟨hname, howner, hvariant, hfile⟩
  · rintro ⟨hname, howner, hvariant, hfile⟩
    exact ⟨hname, hfile, howner, hvariant⟩

namespace ResolvedSet

theorem equiv_iff_sameArtifacts {s t : ResolvedSet} :
    s ≈ t ↔ List.Forall₂ SameArtifact s.toList t.toList := by
  have hcontent : s ≈ t ↔ s.toList.map ResolvedArtifact.content =
      t.toList.map ResolvedArtifact.content := Iff.rfl
  rw [hcontent, ← List.forall₂_eq_eq_eq, List.forall₂_map_left_iff, List.forall₂_map_right_iff]
  simp only [content_eq_iff_sameArtifact]

theorem compose_equiv_iff {sets sets' : List ResolvedSet} :
    compose sets ≈ compose sets' ↔
      List.Forall₂ SameArtifact (sets.flatMap toList) (sets'.flatMap toList) := by
  rw [equiv_iff_sameArtifacts, toList_compose, toList_compose]

theorem compose_equiv_compose {sets sets' : List ResolvedSet}
    (h : List.Forall₂ (· ≈ ·) sets sets') : compose sets ≈ compose sets' := by
  rw [compose_equiv_iff]
  induction h with
  | nil => exact .nil
  | cons h _ ih => exact List.rel_append (equiv_iff_sameArtifacts.1 h) ih

namespace Construction

/-- The artifacts of the parts from which a set is made, from left to right. -/
def listed (c : Construction) : List ResolvedArtifact :=
  c.leaves.flatMap fun leaf => leaf.build.toList

theorem toList_build (c : Construction) : c.build.toList = c.listed := by
  rw [build_eq_compose_leaves, toList_compose, List.flatMap_map]
  rfl

end Construction

/-- Two sets are equal when they list equally many artifacts that agree one by one in name, owner
and variant and in the path of the file. This is an equivalence; it looks at the parts of the sets
and not at their composition, and compositions of equal members, or of the same artifacts in other
groups, are equal. -/
theorem equality_of_listed :
    Equivalence (fun s t : ResolvedSet => s ≈ t) ∧
    (∀ s t : ResolvedSet, s ≈ t ↔ List.Forall₂ SameArtifact s.toList t.toList) ∧
    (∀ c c' : Construction, c.build ≈ c'.build ↔ List.Forall₂ SameArtifact c.listed c'.listed) ∧
    (∀ sets sets' : List ResolvedSet, List.Forall₂ (fun s t => s ≈ t) sets sets' →
      compose sets ≈ compose sets') ∧
    (∀ sets sets' : List ResolvedSet, compose sets ≈ compose sets' ↔
      List.Forall₂ SameArtifact (sets.flatMap toList) (sets'.flatMap toList)) := by
  refine ⟨⟨Setoid.refl, Setoid.symm, Setoid.trans⟩, fun s t => equiv_iff_sameArtifacts, ?_,
    fun sets sets' => compose_equiv_compose, fun sets sets' => compose_equiv_iff⟩
  intro c c'
  rw [equiv_iff_sameArtifacts, Construction.toList_build, Construction.toList_build]

end ResolvedSet

end ArtifactResolution
