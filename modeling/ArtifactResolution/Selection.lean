import ArtifactResolution.Component
import ArtifactResolution.Variant

namespace ArtifactResolution
set_option autoImplicit false

abbrev ComponentFilter := ComponentIdentifier → Bool

namespace ComponentFilter

def acceptAll : ComponentFilter := fun _ => true

/-- Artifacts without an owner are never left out. -/
def accepts (f : ComponentFilter) (owner : Option ComponentIdentifier) : Bool := owner.all f

end ComponentFilter

/-- Chooses a variant among the candidates, or makes one; `none` takes nothing. -/
abbrev VariantSelector := Option ComponentIdentifier → List Variant → Option Variant

def VariantSelector.first : VariantSelector := fun _ candidates => candidates.head?

structure AttributeMatcher where
  required : Attributes := ∅
deriving DecidableEq

namespace AttributeMatcher

/-- Requires a value; a later requirement on the same key replaces it. -/
def require (m : AttributeMatcher) (key value : String) : AttributeMatcher :=
  ⟨m.required.insert key value⟩

def ofType (type : String) : AttributeMatcher :=
  ({} : AttributeMatcher).require Variant.artifactType type

def toSelector (m : AttributeMatcher) : VariantSelector :=
  fun _ candidates => candidates.find? (·.meets m.required)

end AttributeMatcher

end ArtifactResolution
