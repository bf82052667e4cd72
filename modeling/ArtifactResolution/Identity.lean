namespace ArtifactResolution
set_option autoImplicit false

inductive IdKind where
  | node
  | artifactSet
  | fileDependency

/-- A 64-bit number that identifies one thing of the given kind, so that identities of different
kinds cannot be confused. -/
structure Id (kind : IdKind) where
  value : UInt64
deriving DecidableEq

abbrev NodeId := Id .node
abbrev ArtifactSetId := Id .artifactSet
abbrev FileDependencyId := Id .fileDependency

namespace Id
variable {kind : IdKind}

instance : Ord (Id kind) where
  compare a b := compare a.value b.value

instance : Std.TransOrd (Id kind) where
  eq_swap := Std.OrientedOrd.eq_swap (α := UInt64)
  isLE_trans := Std.TransOrd.isLE_trans (α := UInt64)

instance : Std.LawfulEqOrd (Id kind) where
  eq_of_compare {a b} h := by
    cases a; cases b
    exact congrArg Id.mk (Std.LawfulEqOrd.eq_of_compare (α := UInt64) h)

@[simp] theorem compare_beq_eq (a b : Id kind) : (compare a b == .eq) = decide (a = b) := by
  rw [Bool.eq_iff_iff, beq_iff_eq, decide_eq_true_iff, Std.compare_eq_iff_eq]

/-- Identities are shown as a number sign and the number, after the word for their kind. -/
protected def toString (id : Id kind) : String :=
  (match kind with
    | .node => "#"
    | .artifactSet => "artifacts#"
    | .fileDependency => "files#") ++ toString id.value

instance : ToString (Id kind) := ⟨Id.toString⟩

def sorted (ids : List (Id kind)) : List (Id kind) :=
  ids.mergeSort fun a b => (compare a b).isLE

end Id

end ArtifactResolution
