import ArtifactResolution.Json.Components
import ArtifactResolution.ResolvedSet
import ArtifactResolution.Statistics

namespace ArtifactResolution
set_option autoImplicit false

instance : JsonFormat UnixPath where
  encode p := encode p.text
  decode value := (decode value).map UnixPath.mk

namespace Artifact

def fields : Fields Artifact :=
  ((Fields.one (.required "name")).and (.one (.required "file"))).map
    fun (name, file) => { name, file }

instance : JsonFormat Artifact where
  encode a := .obj [("name", encode a.name), ("file", encode a.file)]
  decode := fields.decode

end Artifact

instance : JsonFormat Attributes where
  encode m := .obj (m.entries.map fun e => (e.1, encode e.2))
  decode
    | .obj fields =>
      (fields.mapM fun field => (decode field.2).map (field.1, ·)).map Attributes.ofList
    | _ => .error .invalidType

namespace Variant

def fields : Fields Variant :=
  ((Fields.one (.required "name")).and ((Fields.one (.withDefault "attributes" ∅)).and
    (.one (.withDefault "artifacts" [])))).map
      fun (name, attributes, artifacts) => { name, attributes, artifacts }

instance : JsonFormat Variant where
  encode v := .obj [("name", encode v.name), ("attributes", encode v.attributes),
    ("artifacts", encode v.artifacts)]
  decode := fields.decode

end Variant

namespace ResolvedArtifact

/-- An object may leave out the owner. -/
def ownerField : Field (Option ComponentIdentifier) :=
  { name := "component", decode := decode, ifMissing := some none }

def fields : Fields ResolvedArtifact :=
  ((Fields.one (.required "name")).and ((Fields.one (.required "file")).and
    ((Fields.one ownerField).and (.one (.required "variant"))))).map
      fun (name, file, owner, variant) => { name, file, owner, variant }

instance : JsonFormat ResolvedArtifact where
  encode a := .obj [("name", encode a.name), ("file", encode a.file),
    ("component", encode a.owner), ("variant", encode a.variant)]
  decode := fields.decode

end ResolvedArtifact

namespace ArtifactStatistics

def fields : Fields ArtifactStatistics :=
  ((Fields.one (.required "node_count")).and ((Fields.one (.required "artifact_set_count")).and
    (.one (.required "buildable_count")))).map
      fun (nodeCount, artifactSetCount, buildableCount) =>
        { nodeCount, artifactSetCount, buildableCount }

instance : JsonFormat ArtifactStatistics where
  encode s := .obj [("node_count", encode s.nodeCount),
    ("artifact_set_count", encode s.artifactSetCount),
    ("buildable_count", encode s.buildableCount)]
  decode := fields.decode

end ArtifactStatistics

end ArtifactResolution
