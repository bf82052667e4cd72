import ArtifactResolution.SortedEntries

namespace ArtifactResolution
set_option autoImplicit false

/-- Text attributes in ascending order of their keys, so that equal maps are equal values. -/
structure Attributes where
  entries : List (String × String)
  ascending : SortedEntries.Ascending entries
deriving DecidableEq

namespace Attributes

def empty : Attributes := ⟨[], .nil⟩

instance : EmptyCollection Attributes := ⟨empty⟩

def get? (m : Attributes) (key : String) : Option String := m.entries.lookup key

def insert (m : Attributes) (key value : String) : Attributes :=
  ⟨SortedEntries.insert key value m.entries,
    SortedEntries.ascending_insert key value m.ascending⟩

def ofList (entries : List (String × String)) : Attributes :=
  entries.foldl (fun m e => m.insert e.1 e.2) ∅

end Attributes

end ArtifactResolution
