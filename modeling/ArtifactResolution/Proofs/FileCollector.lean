import ArtifactResolution.FileCollector
import ArtifactResolution.Proofs.Selection.Listing
import ArtifactResolution.Proofs.Visitor

namespace ArtifactResolution
set_option autoImplicit false

/-- The visit of an identified set of files that a node declares. -/
structure FileVisit where
  node : NodeId
  dependency : FileDependencyId
  id : ArtifactSetId
  set : ArtifactSet

def FileVisit.setsOf (node : NodeId) (visits : List FileVisit) :
    List (ArtifactSetId × ArtifactSet) :=
  visits.filterMap fun v => if v.node = node then some (v.id, v.set) else none

namespace Callback

def fileVisit? : Callback → Option FileVisit
  | start .. => none
  | visitNode .. => none
  | visitFile source dependency set =>
    set.id?.map fun id => ⟨source.id, dependency.id, id, set⟩
  | finish => none

def fileVisits (cs : List Callback) : List FileVisit := cs.filterMap fileVisit?

def rootAfter (root : Option NodeId) (callback : Callback) : Option NodeId :=
  (callback.start?.map (·.2)).or root

/-- The declaration and the set, if the root declares the visited files. -/
def declaration? (root : Option NodeId) (callback : Callback) :
    Option (FileDependencyId × ArtifactSet) :=
  callback.fileVisit?.bind fun v => if root = some v.node then some (v.dependency, v.set) else none

/-- The declarations of the root that the walk has when they are visited. -/
def declarations (root : Option NodeId) : List Callback → List (FileDependencyId × ArtifactSet)
  | [] => []
  | callback :: cs =>
    (callback.declaration? root).toList ++ declarations (callback.rootAfter root) cs

end Callback

open Callback

namespace FileCollector
variable {c : FileCollector} {callback : Callback} {v : FileVisit} {visits : List FileVisit}
  {declared : List (FileDependencyId × ArtifactSet)}

theorem accept_of_fileVisit (c : FileCollector) (h : callback.fileVisit? = some v) :
    c.accept callback = c.record v.node v.dependency v.id v.set := by
  cases callback with
  | start => cases h
  | visitNode => cases h
  | visitFile source dependency set =>
    obtain ⟨id, hid, rfl⟩ := Option.map_eq_some_iff.1 h
    rw [accept, hid]
    rfl
  | finish => cases h

theorem accept_of_no_fileVisit (c : FileCollector) (h : callback.fileVisit? = none) :
    c.accept callback = { c with root := callback.rootAfter c.root } := by
  cases callback with
  | start => rfl
  | visitNode => rfl
  | visitFile source dependency set =>
    rw [accept, Option.map_eq_none_iff.1 h]
    rfl
  | finish => rfl

theorem root_accept (c : FileCollector) (callback : Callback) :
    (c.accept callback).root = callback.rootAfter c.root := by
  cases h : callback.fileVisit? with
  | none => rw [accept_of_no_fileVisit c h]
  | some v =>
    rw [accept_of_fileVisit c h, record]
    cases callback with
    | start => cases h
    | visitNode => rfl
    | visitFile => rfl
    | finish => rfl

/-- The state holds the visits so far and the declarations of roots among them. -/
structure Collected (c : FileCollector) (visits : List FileVisit)
    (declared : List (FileDependencyId × ArtifactSet)) : Prop where
  keys_eq : c.byNode.keys = (visits.map (·.node)).eraseDups
  sets_eq : ∀ node, ((c.byNode.get? node).getD ∅).Records (FileVisit.setsOf node visits)
  firstLevel_eq : c.firstLevel.Records declared

namespace Collected

theorem of_fresh : Collected {} [] [] where
  keys_eq := rfl
  sets_eq node := by
    rw [Table.get?_empty]
    exact Table.records_empty
  firstLevel_eq := Table.records_empty

theorem record (hc : c.Collected visits declared) (v : FileVisit) :
    (c.record v.node v.dependency v.id v.set).Collected (visits ++ [v])
      (declared ++ if c.root = some v.node then [(v.dependency, v.set)] else []) where
  keys_eq := by
    rw [List.map_append]
    exact Table.keys_insert_of_eraseDups hc.keys_eq v.node _
  sets_eq node := by
    have hsets := hc.sets_eq node
    rw [FileVisit.setsOf, List.filterMap_append, ← FileVisit.setsOf]
    by_cases hnode : v.node = node
    · subst hnode
      simpa [FileCollector.record] using hsets.insert v.id v.set
    · simpa [FileCollector.record, hnode, Table.get?_insert_of_ne] using hsets
  firstLevel_eq := by
    rw [FileCollector.record]
    split
    · exact hc.firstLevel_eq.insert v.dependency v.set
    · rw [List.append_nil]
      exact hc.firstLevel_eq

theorem accept (hc : c.Collected visits declared) (callback : Callback) :
    (c.accept callback).Collected (visits ++ callback.fileVisit?.toList)
      (declared ++ (callback.declaration? c.root).toList) := by
  rw [declaration?]
  cases h : callback.fileVisit? with
  | none =>
    rw [accept_of_no_fileVisit c h, Option.bind_none, Option.toList_none, Option.toList_none,
      List.append_nil, List.append_nil]
    exact ⟨hc.keys_eq, hc.sets_eq, hc.firstLevel_eq⟩
  | some v =>
    rw [accept_of_fileVisit c h, Option.bind_some]
    have hrecord := hc.record v
    split
    · next hroot => rwa [if_pos hroot] at hrecord
    · next hroot => rwa [if_neg hroot] at hrecord

theorem run (hc : c.Collected visits declared) (cs : List Callback) :
    (Visitor.run c cs).1.Collected (visits ++ fileVisits cs)
      (declared ++ declarations c.root cs) := by
  induction cs generalizing c visits declared with
  | nil => simpa [fileVisits, declarations, Visitor.run] using hc
  | cons callback cs ih =>
    -- The visits behind a start are compared with its root.
    have hrun := ih (hc.accept callback)
    rw [root_accept] at hrun
    rw [Visitor.run_cons, declarations, ← List.append_assoc]
    have hvisits : fileVisits (callback :: cs) = callback.fileVisit?.toList ++ fileVisits cs := by
      cases h : callback.fileVisit? <;> simp [fileVisits, h]
    rw [hvisits, ← List.append_assoc]
    exact hrun

end Collected

theorem collected_run (cs : List Callback) :
    (Visitor.run ({} : FileCollector) cs).1.Collected (fileVisits cs) (declarations none cs) :=
  Collected.of_fresh.run cs

section
variable (s : VariantStore)

theorem Collected.nodes_eq (hc : c.Collected visits declared) :
    (c.complete s).nodes = (visits.map (·.node)).eraseDups :=
  (Table.keys_map _ _).trans hc.keys_eq

theorem Collected.sets_complete (hc : c.Collected visits declared) (node : NodeId) :
    (c.complete s).sets node =
      (Table.latest (FileVisit.setsOf node visits)).map (·.snapshot s) := by
  rw [FileResults.sets, complete, Table.get?_map, ← (hc.sets_eq node).values_eq]
  cases c.byNode.get? node <;> rfl

theorem Collected.get?_firstLevel (hc : c.Collected visits declared) (id : FileDependencyId) :
    (c.complete s).firstLevel.get? id = (declared.reverse.lookup id).map (·.snapshot s) := by
  rw [complete, Table.get?_map, hc.firstLevel_eq.get?_eq]

end

end FileCollector

end ArtifactResolution
