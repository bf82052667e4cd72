import ArtifactResolution.Proofs.FileCollector
import Mathlib.Data.List.Induction

namespace ArtifactResolution
set_option autoImplicit false

namespace Callback
variable {cs : List Callback} {callback : Callback} {root : Option NodeId} {v : FileVisit}

def lastRoot (cs : List Callback) : Option NodeId := (starts cs).getLast?.map (·.2)

/-- The visits of a node that is the root when it is visited. -/
def rootVisits (cs : List Callback) : List FileVisit :=
  cs.zipIdx.filterMap fun (callback, k) =>
    callback.fileVisit?.filter fun v => lastRoot (cs.take k) = some v.node

/-- Whether a collector of files takes note of a callback. -/
def isNoted (callback : Callback) : Bool := callback.start?.isSome || callback.fileVisit?.isSome

theorem exists_eq_visitFile (h : callback.fileVisit? = some v) :
    ∃ source dependency, callback = .visitFile source dependency v.set ∧ source.id = v.node ∧
      v.set.id? = some v.id := by
  cases callback with
  | start => cases h
  | visitNode => cases h
  | visitFile source dependency set =>
    obtain ⟨id, hid, rfl⟩ := Option.map_eq_some_iff.1 h
    exact ⟨source, dependency, rfl, rfl, hid⟩
  | finish => cases h

theorem id?_of_fileVisit (h : callback.fileVisit? = some v) : v.set.id? = some v.id := by
  obtain ⟨_, _, _, _, hid⟩ := exists_eq_visitFile h
  exact hid

theorem id?_of_mem_fileVisits (hv : v ∈ fileVisits cs) : v.set.id? = some v.id := by
  obtain ⟨callback, _, hvisit⟩ := List.mem_filterMap.1 hv
  exact id?_of_fileVisit hvisit

theorem mem_setsOf_iff {node : NodeId} {visits : List FileVisit}
    {e : ArtifactSetId × ArtifactSet} :
    e ∈ FileVisit.setsOf node visits ↔ ∃ v ∈ visits, v.node = node ∧ (v.id, v.set) = e := by
  simp [FileVisit.setsOf]

theorem id?_of_mem_setsOf {node : NodeId} {e : ArtifactSetId × ArtifactSet}
    (h : e ∈ FileVisit.setsOf node (fileVisits cs)) : e.2.id? = some e.1 := by
  obtain ⟨v, hv, _, rfl⟩ := mem_setsOf_iff.1 h
  exact id?_of_mem_fileVisits hv

theorem lastRoot_cons (callback : Callback) (cs : List Callback) :
    lastRoot (callback :: cs) = (lastRoot cs).or (callback.start?.map (·.2)) := by
  cases h : callback.start? with
  | none => simp [lastRoot, starts, h]
  | some walk =>
    rw [lastRoot, starts, List.filterMap_cons_some h, List.getLast?_cons, lastRoot, starts]
    cases (cs.filterMap start?).getLast? <;> rfl

theorem declarations_concat (root : Option NodeId) (cs : List Callback) (callback : Callback) :
    declarations root (cs ++ [callback]) =
      declarations root cs ++ (callback.declaration? ((lastRoot cs).or root)).toList := by
  induction cs generalizing root with
  | nil => simp [declarations, lastRoot, starts]
  | cons first cs ih =>
    rw [List.cons_append, declarations, ih, declarations, List.append_assoc, lastRoot_cons,
      Option.or_assoc]
    rfl

theorem rootVisits_concat (cs : List Callback) (callback : Callback) :
    rootVisits (cs ++ [callback]) = rootVisits cs ++
      (callback.fileVisit?.filter fun v => lastRoot cs = some v.node).toList := by
  rw [rootVisits, List.zipIdx_append, List.filterMap_append, rootVisits]
  congr 1
  · -- The callbacks before one of the first are the same in the longer sequence.
    apply List.filterMap_congr
    rintro ⟨earlier, k⟩ hmem
    have hk : k < cs.length := by
      simpa using List.snd_lt_of_mem_zipIdx hmem
    simp only [List.take_append_of_le_length (Nat.le_of_lt hk)]
  · cases h : callback.fileVisit?.filter fun v => lastRoot cs = some v.node <;> simp [h]

theorem declaration?_eq_map (root : Option NodeId) (callback : Callback) :
    callback.declaration? root = (callback.fileVisit?.filter fun v => root = some v.node).map
      fun v => (v.dependency, v.set) := by
  rw [declaration?]
  cases callback.fileVisit? with
  | none => rfl
  | some v => by_cases h : root = some v.node <;> simp [h, Option.filter]

theorem declarations_eq_rootVisits (cs : List Callback) :
    declarations none cs = (rootVisits cs).map fun v => (v.dependency, v.set) := by
  induction cs using List.reverseRecOn with
  | nil => rfl
  | append_singleton cs callback ih =>
    rw [declarations_concat, rootVisits_concat, List.map_append, ih, Option.or_none,
      declaration?_eq_map]
    cases callback.fileVisit?.filter fun v => lastRoot cs = some v.node <;> rfl

theorem mem_rootVisits_iff : v ∈ rootVisits cs ↔ ∃ before callback after,
    cs = before ++ callback :: after ∧ callback.fileVisit? = some v ∧
      lastRoot before = some v.node := by
  constructor
  · intro hmem
    obtain ⟨⟨callback, k⟩, hplace, hvisit⟩ := List.mem_filterMap.1 hmem
    obtain ⟨hvisit, hroot⟩ := Option.filter_eq_some_iff.1 hvisit
    have hcallback : cs[k]? = some callback := List.mem_zipIdx_iff_getElem?.1 hplace
    obtain ⟨hk, rfl⟩ := List.getElem?_eq_some_iff.1 hcallback
    refine ⟨cs.take k, cs[k], cs.drop (k + 1), ?_, hvisit, by simpa using hroot⟩
    rw [List.getElem_cons_drop, List.take_append_drop]
  · rintro ⟨before, callback, after, rfl, hvisit, hroot⟩
    refine List.mem_filterMap.2 ⟨(callback, before.length), ?_, ?_⟩
    · rw [List.mem_zipIdx_iff_getElem?]
      simp
    · simp [hvisit, hroot]

theorem rootVisits_subset (cs : List Callback) : rootVisits cs ⊆ fileVisits cs := by
  intro v hv
  obtain ⟨before, callback, after, rfl, hvisit, _⟩ := mem_rootVisits_iff.1 hv
  exact List.mem_filterMap.2 ⟨callback, by simp, hvisit⟩

end Callback

open Callback

theorem filterMap_id?_latest {log : List (ArtifactSetId × ArtifactSet)}
    (h : ∀ e ∈ log, e.2.id? = some e.1) :
    (Table.latest log).filterMap ArtifactSet.id? = (log.map (·.1)).eraseDups := by
  rw [Table.latest, List.filterMap_filterMap]
  refine Eq.trans (List.filterMap_congr ?_) (List.filterMap_some)
  intro id hid
  obtain ⟨e, he, rfl⟩ := List.mem_map.1 (List.mem_eraseDups.1 hid)
  obtain ⟨set, hset⟩ := exists_lookup_of_mem (List.mem_reverse.2 he)
  rw [hset, Option.bind_some]
  exact h _ (List.mem_reverse.1 (mem_of_lookup hset))

namespace FileCollector
variable {c : FileCollector} {callback : Callback} {cs : List Callback}

theorem answers_run (c : FileCollector) (cs : List Callback) :
    ∀ answer ∈ (Visitor.run c cs).2, answer = .ok () := by
  induction cs generalizing c with
  | nil => simp [Visitor.run]
  | cons callback cs ih =>
    rw [Visitor.run_cons, List.forall_mem_cons]
    exact ⟨rfl, ih _⟩

theorem accept_of_not_isNoted (c : FileCollector) (h : ¬callback.isNoted) :
    c.accept callback = c := by
  obtain ⟨hstart, hvisit⟩ : callback.start? = none ∧ callback.fileVisit? = none := by
    simpa [isNoted] using h
  rw [accept_of_no_fileVisit c hvisit, rootAfter, hstart]
  rfl

theorem run_filter_isNoted (c : FileCollector) (cs : List Callback) :
    (Visitor.run c (cs.filter isNoted)).1 = (Visitor.run c cs).1 := by
  induction cs generalizing c with
  | nil => rfl
  | cons callback cs ih =>
    rw [List.filter_cons, Visitor.run_cons]
    split
    · exact ih (c.accept callback)
    · next hnoted =>
      have hsame : (Visitor.receive c callback).1 = c := accept_of_not_isNoted c hnoted
      rw [hsame]
      exact ih c

section
variable {visits : List FileVisit} {declared : List (FileDependencyId × ArtifactSet)}
  {s : VariantStore} {node : NodeId}

theorem Collected.setIds_eq (hc : c.Collected (fileVisits cs) declared) (s : VariantStore)
    (node : NodeId) : (c.complete s).setIds node =
      ((FileVisit.setsOf node (fileVisits cs)).map (·.1)).eraseDups := by
  have hsame : (fun set : ArtifactSet => (set.snapshot s).id?) = ArtifactSet.id? := by
    funext set
    exact set.id?_snapshot s
  rw [FileResults.setIds, hc.sets_complete, List.filterMap_map, Function.comp_def, hsame]
  exact filterMap_id?_latest fun _ => id?_of_mem_setsOf

theorem Collected.mem_setIds_iff (hc : c.Collected (fileVisits cs) declared) {id : ArtifactSetId} :
    id ∈ (c.complete s).setIds node ↔ ∃ v ∈ fileVisits cs, v.node = node ∧ v.id = id := by
  rw [hc.setIds_eq, List.mem_eraseDups, List.mem_map]
  constructor
  · rintro ⟨e, he, rfl⟩
    obtain ⟨v, hv, hnode, rfl⟩ := mem_setsOf_iff.1 he
    exact ⟨v, hv, hnode, rfl⟩
  · rintro ⟨v, hv, hnode, rfl⟩
    exact ⟨(v.id, v.set), mem_setsOf_iff.2 ⟨v, hv, hnode, rfl⟩, rfl⟩

theorem Collected.exists_rootVisit {dependency : FileDependencyId} {set : ArtifactSet}
    (hc : c.Collected visits ((rootVisits cs).map fun v => (v.dependency, v.set)))
    (h : (c.complete s).firstLevel.get? dependency = some set) :
    ∃ v ∈ rootVisits cs, v.dependency = dependency ∧ set = v.set.snapshot s := by
  rw [hc.get?_firstLevel] at h
  obtain ⟨live, hlive, rfl⟩ := Option.map_eq_some_iff.1 h
  obtain ⟨v, hv, hdeclared⟩ := List.mem_map.1 (List.mem_reverse.1 (mem_of_lookup hlive))
  obtain ⟨hdependency, rfl⟩ := Prod.mk.inj hdeclared
  exact ⟨v, hv, hdependency, rfl⟩

theorem collected_rootVisits (cs : List Callback) :
    (Visitor.run ({} : FileCollector) cs).1.Collected (fileVisits cs)
      ((rootVisits cs).map fun v => (v.dependency, v.set)) := by
  rw [← declarations_eq_rootVisits]
  exact collected_run cs

end

/-- No callback is refused, and the results are a function of the visits that deliver an identified
set of files. Under each node stands, for every identity in the order of the first visits, the set
that was delivered last; the declarations of roots, too, stand in the order of the first visits, each
with the set delivered last. All other callbacks but the starts can be left out. A set of a
declaration was delivered when its node was the root, and is recorded under this node. -/
theorem complete_eq_visited (cs : List Callback) (s : VariantStore) :
    let results := (Visitor.run ({} : FileCollector) cs).1.complete s
    let declared := (rootVisits cs).map fun v => (v.dependency, v.set)
    (∀ answer ∈ (Visitor.run ({} : FileCollector) cs).2, answer = .ok ()) ∧
    results.nodes = ((fileVisits cs).map (·.node)).eraseDups ∧
    (∀ node, results.setIds node =
      ((FileVisit.setsOf node (fileVisits cs)).map (·.1)).eraseDups) ∧
    (∀ node, results.sets node =
      (Table.latest (FileVisit.setsOf node (fileVisits cs))).map (·.snapshot s)) ∧
    results.firstLevelIds = (declared.map (·.1)).eraseDups ∧
    (∀ id, results.firstLevel.get? id = (declared.reverse.lookup id).map (·.snapshot s)) ∧
    (Visitor.run ({} : FileCollector) (cs.filter isNoted)).1 =
      (Visitor.run ({} : FileCollector) cs).1 ∧
    (∀ entry ∈ results.firstLevel.toList, ∃ before visit after v,
      cs = before ++ visit :: after ∧ visit.fileVisit? = some v ∧ lastRoot before = some v.node ∧
        entry = (v.dependency, v.set.snapshot s) ∧ entry.2.id? = some v.id ∧
        v.id ∈ results.setIds v.node) := by
  intro results declared
  have hc := collected_rootVisits cs
  refine ⟨answers_run _ cs, hc.nodes_eq s, hc.setIds_eq s, hc.sets_complete s, ?_,
    hc.get?_firstLevel s, run_filter_isNoted _ cs, ?_⟩
  · exact (Table.keys_map _ _).trans hc.firstLevel_eq.keys_eq
  · intro entry hentry
    obtain ⟨v, hv, hdependency, hset⟩ := hc.exists_rootVisit (Table.get?_eq_some_iff.2 hentry)
    obtain ⟨before, visit, after, hsplit, hvisit, hroot⟩ := mem_rootVisits_iff.1 hv
    have hid : entry.2.id? = some v.id := by
      rw [hset, ArtifactSet.id?_snapshot, id?_of_fileVisit hvisit]
    have hmem : v ∈ fileVisits cs := rootVisits_subset cs hv
    exact ⟨before, visit, after, v, hsplit, hvisit, hroot, Prod.ext hdependency.symm hset, hid,
      hc.mem_setIds_iff.2 ⟨v, hmem, rfl, rfl⟩⟩

end FileCollector

end ArtifactResolution
