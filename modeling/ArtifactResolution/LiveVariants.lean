import ArtifactResolution.Variant

namespace ArtifactResolution
set_option autoImplicit false

structure LiveVariants where
  cell : Nat
deriving DecidableEq

/-- The current lists of variants. A handle names one of them, and sets that hold the same handle
see the same changes. -/
structure VariantStore where
  cells : Array (List Variant) := #[]
deriving DecidableEq

namespace VariantStore

instance : EmptyCollection VariantStore := ⟨{}⟩

def read (s : VariantStore) (h : LiveVariants) : List Variant := s.cells[h.cell]?.getD []

def create (s : VariantStore) (variants : List Variant) : LiveVariants × VariantStore :=
  (⟨s.cells.size⟩, ⟨s.cells.push variants⟩)

def replace (s : VariantStore) (h : LiveVariants) (variants : List Variant) : VariantStore :=
  ⟨s.cells.setIfInBounds h.cell variants⟩

def push (s : VariantStore) (h : LiveVariants) (v : Variant) : VariantStore :=
  s.replace h (s.read h ++ [v])

@[simp] theorem read_create (s : VariantStore) (variants : List Variant) :
    (s.create variants).2.read (s.create variants).1 = variants := by
  simp [read, create]

theorem read_replace_of_ne (s : VariantStore) {h h' : LiveVariants} (variants : List Variant)
    (hne : h.cell ≠ h'.cell) : (s.replace h variants).read h' = s.read h' := by
  simp [read, replace, hne]

end VariantStore

inductive VariantSource where
  | live (handle : LiveVariants)
  | frozen (variants : List Variant)
deriving DecidableEq

namespace VariantSource

def isFrozen : VariantSource → Bool
  | live _ => false
  | frozen _ => true

def current (s : VariantStore) : VariantSource → List Variant
  | live handle => s.read handle
  | frozen variants => variants

def freeze (s : VariantStore) (source : VariantSource) : VariantSource := frozen (source.current s)

@[simp] theorem isFrozen_freeze (s : VariantStore) (source : VariantSource) :
    (source.freeze s).isFrozen := rfl

@[simp] theorem current_freeze (s s' : VariantStore) (source : VariantSource) :
    (source.freeze s).current s' = source.current s := rfl

end VariantSource

end ArtifactResolution
