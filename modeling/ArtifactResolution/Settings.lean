import ArtifactResolution.LogLevel
import ArtifactResolution.SortOrder

namespace ArtifactResolution
set_option autoImplicit false

structure ResolutionSettings where
  buildProjects : Bool := true
  order : SortOrder := .default
  logLevel : Option LogLevel := none
deriving DecidableEq

/-- The level that is used; one that is not set stands for `info`. -/
def ResolutionSettings.effectiveLogLevel (s : ResolutionSettings) : LogLevel :=
  s.logLevel.getD .info

/-- Values given by the caller; one that is not set leaves the setting to the other sources. -/
structure SettingsOverrides where
  buildProjects : Option Bool := none
  order : Option SortOrder := none
  logLevel : Option LogLevel := none
deriving DecidableEq

end ArtifactResolution
