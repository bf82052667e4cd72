namespace ArtifactResolution
set_option autoImplicit false

/-- A build that takes part in the invocation; the current one is the build being executed. -/
structure BuildIdentifier where
  name : String
  current : Bool
deriving DecidableEq

inductive ComponentIdentifier where
  | project (build : BuildIdentifier) (path : String)
  | module (group name version : String)
deriving DecidableEq

namespace ComponentIdentifier

def build? : ComponentIdentifier → Option BuildIdentifier
  | project build _ => some build
  | module .. => none

def isProject (c : ComponentIdentifier) : Bool := c.build?.isSome

def isForeignProject (c : ComponentIdentifier) : Bool := c.build?.any fun b => !b.current

/-- A project of the current build is shown by its path alone. -/
protected def toString : ComponentIdentifier → String
  | project build path => "project " ++ (if build.current then path else build.name ++ path)
  | module group name version => group ++ ":" ++ name ++ ":" ++ version

instance : ToString ComponentIdentifier := ⟨ComponentIdentifier.toString⟩

end ComponentIdentifier

/-- Where a configuration comes from; only a local one has work that produces its artifacts. -/
inductive ConfigurationKind where
  | localProject
  | external
deriving DecidableEq

structure Configuration where
  name : String
  kind : ConfigurationKind
deriving DecidableEq

def Configuration.isLocal (c : Configuration) : Bool := c.kind == .localProject

end ArtifactResolution
