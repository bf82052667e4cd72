import ArtifactResolution.LiveVariants

namespace ArtifactResolution
set_option autoImplicit false

inductive VariantUpdate where
  | create (variants : List Variant)
  | push (handle : LiveVariants) (v : Variant)
  | replace (handle : LiveVariants) (variants : List Variant)

def VariantUpdate.effect (handle : LiveVariants) (current : List Variant) :
    VariantUpdate → List Variant
  | create _ => current
  | push h v => if h = handle then current ++ [v] else current
  | replace h variants => if h = handle then variants else current

namespace VariantStore
variable {s : VariantStore} {handle : LiveVariants}

def Knows (s : VariantStore) (handle : LiveVariants) : Prop := handle.cell < s.cells.size

def update (s : VariantStore) : VariantUpdate → VariantStore
  | .create variants => (s.create variants).2
  | .push h v => s.push h v
  | .replace h variants => s.replace h variants

def updateAll (s : VariantStore) (us : List VariantUpdate) : VariantStore := us.foldl update s

theorem Knows.read_create (h : s.Knows handle) (variants : List Variant) :
    (s.create variants).2.read handle = s.read handle := by
  have hne : handle.cell ≠ s.cells.size := Nat.ne_of_lt h
  simp [read, create, Array.getElem?_push, hne]

theorem Knows.read_replace (h : s.Knows handle) (target : LiveVariants) (variants : List Variant) :
    (s.replace target variants).read handle =
      if target = handle then variants else s.read handle := by
  split
  · next heq =>
    have hlt : handle.cell < s.cells.size := h
    simp [heq, read, replace, hlt]
  · next hne =>
    apply read_replace_of_ne
    intro hcell
    exact hne (congrArg LiveVariants.mk hcell)

theorem Knows.update (h : s.Knows handle) (u : VariantUpdate) : (s.update u).Knows handle := by
  have hlt : handle.cell < s.cells.size := h
  cases u with
  | create variants =>
    show handle.cell < (s.cells.push variants).size
    rw [Array.size_push]
    exact Nat.lt_succ_of_lt hlt
  | push target v =>
    show handle.cell < (s.cells.setIfInBounds ..).size
    rwa [Array.size_setIfInBounds]
  | replace target variants =>
    show handle.cell < (s.cells.setIfInBounds ..).size
    rwa [Array.size_setIfInBounds]

theorem Knows.read_update (h : s.Knows handle) (u : VariantUpdate) :
    (s.update u).read handle = u.effect handle (s.read handle) := by
  cases u with
  | create variants => exact h.read_create variants
  | push target v =>
    rw [VariantStore.update, push, h.read_replace, VariantUpdate.effect]
    split
    · next heq => rw [heq]
    · rfl
  | replace target variants => exact h.read_replace target variants

theorem Knows.read_updateAll (h : s.Knows handle) (us : List VariantUpdate) :
    (s.updateAll us).read handle = us.foldl (VariantUpdate.effect handle) (s.read handle) := by
  induction us generalizing s with
  | nil => rfl
  | cons u us ih =>
    rw [List.foldl_cons, ← h.read_update u]
    exact ih (h.update u)

end VariantStore

end ArtifactResolution
