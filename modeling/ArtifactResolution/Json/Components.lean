import ArtifactResolution.Graph
import ArtifactResolution.Json.Format
import ArtifactResolution.SortOrder

namespace ArtifactResolution
set_option autoImplicit false

instance {kind : IdKind} : JsonFormat (Id kind) where
  encode id := encode id.value
  decode value := (decode value).map Id.mk

namespace BuildIdentifier

def fields : Fields BuildIdentifier :=
  ((Fields.one (.required "name")).and (.one (.required "current"))).map
    fun (name, current) => { name, current }

instance : JsonFormat BuildIdentifier where
  encode b := .obj [("name", encode b.name), ("current", encode b.current)]
  decode := fields.decode

end BuildIdentifier

namespace ComponentIdentifier

def projectFields : Fields ComponentIdentifier :=
  ((Fields.one (.required "build")).and (.one (.required "path"))).map
    fun (build, path) => project build path

def moduleFields : Fields ComponentIdentifier :=
  ((Fields.one (.required "group")).and ((Fields.one (.required "name")).and
    (.one (.required "version")))).map fun (group, name, version) => .module group name version

instance : JsonFormat ComponentIdentifier where
  encode
    | project build path =>
      .obj [("kind", .str "project"), ("build", encode build), ("path", encode path)]
    | .module group name version =>
      .obj [("kind", .str "module"), ("group", encode group), ("name", encode name),
        ("version", encode version)]
  decode := decodeTagged "kind" [("project", projectFields), ("module", moduleFields)]

end ComponentIdentifier

instance : JsonFormat ConfigurationKind where
  encode
    | .localProject => .str "local"
    | .external => .str "external"
  decode := decodeName [("local", .localProject), ("external", .external)]

namespace Configuration

def fields : Fields Configuration :=
  ((Fields.one (.required "name")).and (.one (.required "kind"))).map
    fun (name, kind) => { name, kind }

instance : JsonFormat Configuration where
  encode c := .obj [("name", encode c.name), ("kind", encode c.kind)]
  decode := fields.decode

end Configuration

namespace Edge

def fields : Fields Edge := (Fields.one (.required "targets")).map Edge.mk

instance : JsonFormat Edge where
  encode e := .obj [("targets", encode e.targets)]
  decode := fields.decode

end Edge

instance : JsonFormat SortOrder where
  encode o := .str o.toString
  decode := decodeName (SortOrder.all.map fun o => (o.toString, o))

end ArtifactResolution
