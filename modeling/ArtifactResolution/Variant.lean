import ArtifactResolution.Attributes
import ArtifactResolution.UnixPath

namespace ArtifactResolution
set_option autoImplicit false

structure Artifact where
  name : String
  file : UnixPath
deriving DecidableEq

namespace Artifact

/-- The artifact named after its file, or after the whole path where it names no file. -/
def ofFile (file : UnixPath) : Artifact :=
  ⟨(file.fileName?.map String.ofList).getD file.text, file⟩

/-- An artifact up to the way in which its path is written. -/
def content (a : Artifact) : String × List UnixPath.Part := (a.name, a.file.parts)

instance : Setoid Artifact where
  r a b := a.content = b.content
  iseqv := ⟨fun _ => rfl, Eq.symm, Eq.trans⟩

instance (a b : Artifact) : Decidable (a ≈ b) :=
  inferInstanceAs (Decidable (a.content = b.content))

end Artifact

structure Variant where
  name : String
  attributes : Attributes := ∅
  artifacts : List Artifact := []
deriving DecidableEq

namespace Variant

/-- The attribute that tells the type of a variant's files. -/
def artifactType : String := "artifactType"

def withAttribute (v : Variant) (key value : String) : Variant :=
  { v with attributes := v.attributes.insert key value }

def withArtifact (v : Variant) (a : Artifact) : Variant :=
  { v with artifacts := v.artifacts ++ [a] }

def meets (v : Variant) (required : Attributes) : Bool :=
  required.entries.all fun e => v.attributes.get? e.1 = some e.2

/-- The variant that offers a single file; its type is the extension, empty where there is none. -/
def ofFile (file : UnixPath) : Variant :=
  let artifact := Artifact.ofFile file
  ({ name := artifact.name } : Variant)
    |>.withAttribute artifactType (String.ofList (file.extension?.getD []))
    |>.withArtifact artifact

/-- A variant up to the way in which its paths are written. -/
def content (v : Variant) : String × Attributes × List (String × List UnixPath.Part) :=
  (v.name, v.attributes, v.artifacts.map Artifact.content)

instance : Setoid Variant where
  r v w := v.content = w.content
  iseqv := ⟨fun _ => rfl, Eq.symm, Eq.trans⟩

instance (v w : Variant) : Decidable (v ≈ w) :=
  inferInstanceAs (Decidable (v.content = w.content))

end Variant

end ArtifactResolution
