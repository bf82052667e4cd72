import ArtifactResolution.Identity
import ArtifactResolution.ResolvedSet
import ArtifactResolution.Table

namespace ArtifactResolution
set_option autoImplicit false

/-- Selections kept under the identity of their set, so that a set that occurs several times is
selected once. -/
abbrev SelectionCache := Table ArtifactSetId ResolvedSet

namespace SelectionCache
variable {α : Type}

/-- Selects the first set that stands under each identity. -/
def ofEntries (select : α → ResolvedSet) (entries : List (ArtifactSetId × α)) : SelectionCache :=
  entries.foldl
    (fun cache e => if cache.contains e.1 then cache else cache.insert e.1 (select e.2)) ∅

def selected (cache : SelectionCache) (id : ArtifactSetId) : ResolvedSet := (cache.get? id).getD ∅

end SelectionCache

end ArtifactResolution
