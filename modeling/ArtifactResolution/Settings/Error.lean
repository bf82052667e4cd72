import ArtifactResolution.Settings.Source
import ArtifactResolution.Text.Alternatives

namespace ArtifactResolution
set_option autoImplicit false

inductive ValueProblem where
  | unknownVariant (found : String) (expected : List String)
  | invalidType (found : RawValue) (expected : String)

/-- A value that does not fit its setting, with the keys that lead to it. -/
structure ValueError where
  problem : ValueProblem
  keys : List String
  source : SettingsSource

inductive SettingsError where
  | notFound (path : UnixPath)
  | invalidDocument
  | invalidValue (e : ValueError)

def ValueProblem.message : ValueProblem → String
  | unknownVariant found expected =>
    s!"unknown variant: found `{found}`, expected `{Text.alternatives expected}`"
  | invalidType found expected => s!"invalid type: found {found.describe}, expected {expected}"

def ValueError.message (e : ValueError) : String :=
  s!"{e.problem.message} for key {Text.quoted (e.source.keyText e.keys)} in {e.source.describe}"

def SettingsError.message : SettingsError → String
  | notFound path => s!"config file not found: {path.text}"
  | invalidDocument => "invalid value for 'settings': TOML parse error"
  | invalidValue e => s!"invalid value for 'settings': {e.message}"

end ArtifactResolution
