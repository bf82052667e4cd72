namespace ArtifactResolution
set_option autoImplicit false

structure ArtifactStatistics where
  nodeCount : Nat := 0
  artifactSetCount : Nat := 0
  buildableCount : Nat := 0
deriving DecidableEq

end ArtifactResolution
