import ArtifactResolution.Component
import ArtifactResolution.Variant

namespace ArtifactResolution
set_option autoImplicit false

/-- An artifact chosen for consumption, with its owner and the variant that it comes from. -/
structure ResolvedArtifact where
  name : String
  file : UnixPath
  owner : Option ComponentIdentifier
  variant : String
deriving DecidableEq

namespace ResolvedArtifact

/-- A resolved artifact up to the way in which its path is written. -/
def content (a : ResolvedArtifact) :
    String × List UnixPath.Part × Option ComponentIdentifier × String :=
  (a.name, a.file.parts, a.owner, a.variant)

instance : Setoid ResolvedArtifact where
  r a b := a.content = b.content
  iseqv := ⟨fun _ => rfl, Eq.symm, Eq.trans⟩

instance (a b : ResolvedArtifact) : Decidable (a ≈ b) :=
  inferInstanceAs (Decidable (a.content = b.content))

end ResolvedArtifact

/-- Nothing, one chunk of artifacts, or several chunks one after the other. A composed set holds the
chunks of its members, and empty members leave no trace. -/
inductive ResolvedSet where
  | empty
  | artifacts (chunk : List ResolvedArtifact)
  | composite (chunks : List (List ResolvedArtifact))
deriving DecidableEq

namespace ResolvedSet

instance : EmptyCollection ResolvedSet := ⟨empty⟩

def chunks : ResolvedSet → List (List ResolvedArtifact)
  | empty => []
  | artifacts chunk => [chunk]
  | composite chunks => chunks

def toList (s : ResolvedSet) : List ResolvedArtifact := s.chunks.flatten

def isEmpty : ResolvedSet → Bool
  | empty => true
  | _ => false

def size (s : ResolvedSet) : Nat := s.chunks.foldl (fun n chunk => n + chunk.length) 0

def files (s : ResolvedSet) : List UnixPath := s.toList.map ResolvedArtifact.file

def ofList : List ResolvedArtifact → ResolvedSet
  | [] => empty
  | as => artifacts as

/-- Every artifact of a variant, labelled with the owner and the variant's name. -/
def ofVariant (owner : Option ComponentIdentifier) (v : Variant) : ResolvedSet :=
  ofList (v.artifacts.map fun a => ⟨a.name, a.file, owner, v.name⟩)

def ofChunks : List (List ResolvedArtifact) → ResolvedSet
  | [] => empty
  | [chunk] => artifacts chunk
  | chunks => composite chunks

def compose (sets : List ResolvedSet) : ResolvedSet := ofChunks (sets.flatMap chunks)

/-- Sets are equivalent when they list equivalent artifacts, however they were composed. -/
instance : Setoid ResolvedSet where
  r s t := s.toList.map ResolvedArtifact.content = t.toList.map ResolvedArtifact.content
  iseqv := ⟨fun _ => rfl, Eq.symm, Eq.trans⟩

instance (s t : ResolvedSet) : Decidable (s ≈ t) :=
  inferInstanceAs (Decidable (s.toList.map ResolvedArtifact.content =
    t.toList.map ResolvedArtifact.content))

end ResolvedSet

end ArtifactResolution
