import ArtifactResolution.ResolvedSet

namespace ArtifactResolution
set_option autoImplicit false

namespace ResolvedSet

@[simp] theorem toList_empty : (∅ : ResolvedSet).toList = [] := rfl

@[simp] theorem chunks_ofChunks (chunks : List (List ResolvedArtifact)) :
    (ofChunks chunks).chunks = chunks := by
  match chunks with
  | [] => rfl
  | [_] => rfl
  | _ :: _ :: _ => rfl

@[simp] theorem chunks_compose (sets : List ResolvedSet) :
    (compose sets).chunks = sets.flatMap chunks :=
  chunks_ofChunks _

@[simp] theorem toList_compose (sets : List ResolvedSet) :
    (compose sets).toList = sets.flatMap toList := by
  rw [toList, chunks_compose]
  induction sets with
  | nil => rfl
  | cons set sets ih => simp [ih, toList]

@[simp] theorem toList_ofList (as : List ResolvedArtifact) : (ofList as).toList = as := by
  cases as with
  | nil => rfl
  | cons a as => simp [ofList, toList, chunks]

theorem owner_of_mem_ofVariant {owner : Option ComponentIdentifier} {v : Variant}
    {a : ResolvedArtifact} (h : a ∈ (ofVariant owner v).toList) : a.owner = owner := by
  rw [ofVariant, toList_ofList, List.mem_map] at h
  obtain ⟨_, _, rfl⟩ := h
  rfl

end ResolvedSet

end ArtifactResolution
