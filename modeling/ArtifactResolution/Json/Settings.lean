import ArtifactResolution.Json.Components
import ArtifactResolution.Settings

namespace ArtifactResolution
set_option autoImplicit false

instance : JsonFormat LogLevel where
  encode level := .str level.name
  decode := decodeName LogLevel.names

/-- A field that is written only if it is set. -/
def encodeSome {α : Type} [JsonFormat α] (name : String) (a : Option α) : List (String × Json) :=
  (a.map fun a => (name, encode a)).toList

namespace ResolutionSettings

def fields : Fields ResolutionSettings :=
  ((Fields.one (.withDefault "build_project_dependencies" true)).and
    ((Fields.one (.withDefault "sort_order" .default)).and
      (.one (.withDefault "log_level" none)))).map
        fun (buildProjects, order, logLevel) => { buildProjects, order, logLevel }

instance : JsonFormat ResolutionSettings where
  encode s := .obj ([("build_project_dependencies", encode s.buildProjects),
    ("sort_order", encode s.order)] ++ encodeSome "log_level" s.logLevel)
  decode := fields.decode

end ResolutionSettings

def SettingsOverrides.encode (o : SettingsOverrides) : Json :=
  .obj (encodeSome "build_project_dependencies" o.buildProjects ++
    encodeSome "sort_order" o.order ++ encodeSome "log_level" o.logLevel)

end ArtifactResolution
