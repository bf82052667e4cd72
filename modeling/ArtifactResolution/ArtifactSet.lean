import ArtifactResolution.Identity
import ArtifactResolution.LiveVariants
import ArtifactResolution.ResolvedSet
import ArtifactResolution.Selection

namespace ArtifactResolution
set_option autoImplicit false

/-- An identified collection of artifacts; only the set without artifacts has no identity. -/
inductive ArtifactSet where
  | component (id : ArtifactSetId) (owner : ComponentIdentifier) (variants : VariantSource)
  | files (id : ArtifactSetId) (dependency : FileDependencyId)
      (owner : Option ComponentIdentifier) (files : List UnixPath)
  | composite (id : ArtifactSetId) (members : List ArtifactSet)
  | empty

/-- A local collection of files that is declared as a dependency. -/
structure FileDependency where
  id : FileDependencyId
  displayName : String
  owner : Option ComponentIdentifier := none
  files : List UnixPath
deriving DecidableEq

def FileDependency.artifacts (d : FileDependency) (id : ArtifactSetId) : ArtifactSet :=
  .files id d.id d.owner d.files

/-- What a selector takes from the candidates of one owner. -/
def VariantSelector.resolve (selector : VariantSelector) (owner : Option ComponentIdentifier)
    (candidates : List Variant) : ResolvedSet :=
  match selector owner candidates with
  | some v => .ofVariant owner v
  | none => ∅

namespace ArtifactSet

instance : EmptyCollection ArtifactSet := ⟨empty⟩
instance : Inhabited ArtifactSet := ⟨∅⟩

def id? : ArtifactSet → Option ArtifactSetId
  | component id .. => some id
  | files id .. => some id
  | composite id _ => some id
  | empty => none

mutual

def snapshot (s : VariantStore) : ArtifactSet → ArtifactSet
  | component id owner variants => component id owner (variants.freeze s)
  | files id dependency owner paths => files id dependency owner paths
  | composite id members => composite id (snapshots s members)
  | empty => empty

def snapshots (s : VariantStore) : List ArtifactSet → List ArtifactSet
  | [] => []
  | set :: sets => snapshot s set :: snapshots s sets

end

mutual

def isSnapshot : ArtifactSet → Bool
  | component _ _ variants => variants.isFrozen
  | composite _ members => areSnapshots members
  | files .. => true
  | empty => true

def areSnapshots : List ArtifactSet → Bool
  | [] => true
  | set :: sets => isSnapshot set && areSnapshots sets

end

def selectComponent (owner : ComponentIdentifier) (candidates : List Variant)
    (filter : ComponentFilter) (selector : VariantSelector) : ResolvedSet :=
  if filter owner then selector.resolve (some owner) candidates else ∅

/-- What is selected from files, each of which is offered as a variant of its own. -/
def selectFiles (owner : Option ComponentIdentifier) (paths : List UnixPath)
    (filter : ComponentFilter) (selector : VariantSelector) : ResolvedSet :=
  if filter.accepts owner then
    .compose (paths.map fun file => selector.resolve owner [Variant.ofFile file])
  else ∅

mutual

def select (s : VariantStore) (filter : ComponentFilter) (selector : VariantSelector) :
    ArtifactSet → ResolvedSet
  | component _ owner variants => selectComponent owner (variants.current s) filter selector
  | files _ _ owner paths => selectFiles owner paths filter selector
  | composite _ members => .compose (selectAll s filter selector members)
  | empty => ∅

def selectAll (s : VariantStore) (filter : ComponentFilter) (selector : VariantSelector) :
    List ArtifactSet → List ResolvedSet
  | [] => []
  | set :: sets => select s filter selector set :: selectAll s filter selector sets

end

@[simp] theorem snapshots_eq_map (s : VariantStore) (sets : List ArtifactSet) :
    snapshots s sets = sets.map (snapshot s) := by
  induction sets with
  | nil => simp [snapshots]
  | cons set sets ih => simp [snapshots, ih]

@[simp] theorem areSnapshots_eq_all (sets : List ArtifactSet) :
    areSnapshots sets = sets.all isSnapshot := by
  induction sets with
  | nil => simp [areSnapshots]
  | cons set sets ih => simp [areSnapshots, ih]

@[simp] theorem selectAll_eq_map (s : VariantStore) (filter : ComponentFilter)
    (selector : VariantSelector) (sets : List ArtifactSet) :
    selectAll s filter selector sets = sets.map (select s filter selector) := by
  induction sets with
  | nil => simp [selectAll]
  | cons set sets ih => simp [selectAll, ih]

@[simp] theorem id?_snapshot (s : VariantStore) (set : ArtifactSet) :
    (set.snapshot s).id? = set.id? := by
  cases set <;> simp [snapshot, id?]

end ArtifactSet

end ArtifactResolution
