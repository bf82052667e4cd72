import ArtifactResolution.Graph

namespace ArtifactResolution
set_option autoImplicit false

inductive BuildDecision where
  | alreadyMarked
  | notLocal
  | projectDependenciesDisabled
  | foreignBuildSource
  | buildable
deriving DecidableEq

namespace BuildDecision

def isBuildable (d : BuildDecision) : Bool := d == buildable

/-- The first rule that applies decides. Edges out of another build's project are left out, so
that a cycle between builds is seen as one between builds. -/
def ofEdge (source target : Node) (buildProjects marked : Bool) : BuildDecision :=
  if marked then alreadyMarked
  else if !target.configuration.isLocal then notLocal
  else if !buildProjects then projectDependenciesDisabled
  else if source.owner.isForeignProject then foreignBuildSource
  else buildable

end BuildDecision

end ArtifactResolution
