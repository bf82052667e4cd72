import ArtifactResolution.Proofs.ArtifactCollector.Buildable
import ArtifactResolution.Proofs.ArtifactCollector.Collected
import ArtifactResolution.Proofs.Selection.WithoutCache

namespace ArtifactResolution
set_option autoImplicit false

open Callback

namespace ArtifactResults
variable {r : ArtifactResults} {id : ArtifactSetId}

/-- No node and no set is listed twice, the groups name exactly the registered sets, what must be
built is registered, and every set is registered under its own identity. -/
structure Consistent (r : ArtifactResults) : Prop where
  nodup_nodes : r.nodes.Nodup
  nodup_setIds : ∀ node, (r.setIds node).Nodup
  grouped_iff : ∀ id, id ∈ r.groupedIds ↔ id ∈ r.sets.keys
  registered : ∀ id ∈ r.buildableIds, id ∈ r.sets.keys
  id_eq : ∀ id set, r.sets.get? id = some set → set.id? = some id

theorem statistics_eq (r : ArtifactResults) :
    r.statistics = ⟨r.nodes.length, r.sets.keys.length, r.buildableIds.length⟩ := by
  rw [nodes, Table.length_keys, Table.length_keys, buildableIds, OrderedSet.toList,
    Table.length_keys]
  rfl

namespace Consistent

theorem exists_get? (h : r.Consistent) (hid : id ∈ r.sets.keys) :
    ∃ set, r.sets.get? id = some set ∧ set.id? = some id := by
  rw [Table.mem_keys_iff, Table.contains_eq_isSome_get?] at hid
  obtain ⟨set, hset⟩ := Option.isSome_iff_exists.1 hid
  exact ⟨set, hset, h.id_eq id set hset⟩

theorem builtIds_perm (h : r.Consistent) : r.builtIds.Perm r.buildableIds := by
  have hbuilt : r.builtIds.Nodup := (nodup_eraseDups r.groupedIds).filter _
  apply (List.perm_ext_iff_of_nodup hbuilt (Table.nodup_keys r.buildable)).2
  intro id
  rw [builtIds, List.mem_filter, List.mem_eraseDups, ← mem_buildableIds_iff]
  refine ⟨And.right, fun hid => ⟨?_, hid⟩⟩
  exact (h.grouped_iff id).2 (h.registered id hid)

end Consistent

end ArtifactResults

theorem Callback.exists_delivery_of_required? {buildProjects : Bool} {callback : Callback}
    {id : ArtifactSetId} (h : callback.required? buildProjects = some id) :
    ∃ node set, callback.delivery? = some (node, set) ∧ set.id? = some id := by
  cases callback with
  | start => cases h
  | visitNode source target set =>
    rw [required?] at h
    split at h
    · exact ⟨_, _, rfl, h⟩
    · cases h
  | visitFile source dependency set => exact ⟨_, _, rfl, h⟩
  | finish => cases h

namespace ArtifactCollector
variable {c : ArtifactCollector} {done : List Callback} (s : VariantStore)

namespace Collected

theorem mem_sets_complete_iff (hc : c.Collected done) {id : ArtifactSetId} :
    id ∈ (c.complete s).sets.keys ↔ ∃ set, (id, set) ∈ identified done := by
  have hkeys : (c.complete s).sets.keys = c.sets.keys := Table.keys_map _ _
  rw [hkeys, hc.sets_eq.keys_eq, List.mem_eraseDups, List.mem_map]
  constructor
  · rintro ⟨⟨id, set⟩, hmem, rfl⟩
    exact ⟨set, hmem⟩
  · rintro ⟨set, hmem⟩
    exact ⟨(id, set), hmem, rfl⟩

theorem mem_groupedIds_complete_iff (hc : c.Collected done) {id : ArtifactSetId} :
    id ∈ (c.complete s).groupedIds ↔ ∃ set, (id, set) ∈ identified done := by
  rw [ArtifactResults.mem_groupedIds_iff]
  simp only [hc.setIds_eq, List.mem_eraseDups, mem_idsFor_iff, mem_identified_iff]
  exact exists_comm

theorem id?_of_get?_complete (hc : c.Collected done) {id : ArtifactSetId} {set : ArtifactSet}
    (h : (c.complete s).sets.get? id = some set) : set.id? = some id := by
  rw [get?_sets_complete, hc.sets_eq.get?_eq] at h
  obtain ⟨live, hlive, rfl⟩ := Option.map_eq_some_iff.1 h
  rw [ArtifactSet.id?_snapshot]
  exact id?_of_lastSet? hlive

end Collected

theorem consistent_run (buildProjects : Bool) (order : SortOrder) (cs : List Callback) :
    ((Visitor.run ({ buildProjects, order } : ArtifactCollector) cs).1.complete s).Consistent := by
  have hc := Collected.run buildProjects order cs
  constructor
  case nodup_nodes => exact Table.nodup_keys _
  case nodup_setIds =>
    intro node
    rw [hc.setIds_eq]
    exact nodup_eraseDups _
  case grouped_iff =>
    intro id
    rw [hc.mem_groupedIds_complete_iff, hc.mem_sets_complete_iff]
  case registered =>
    intro id hid
    have hbuildable := isBuildable_run_iff buildProjects order cs s id
    obtain ⟨callback, hmem, hrequired⟩ := hbuildable.1 (ArtifactResults.mem_buildableIds_iff.1 hid)
    obtain ⟨node, set, hdelivery, hset⟩ := exists_delivery_of_required? hrequired
    rw [hc.mem_sets_complete_iff]
    exact ⟨set, mem_identified_iff.2 ⟨node, mem_deliveries hmem hdelivery, hset⟩⟩
  case id_eq => exact fun id set => hc.id?_of_get?_complete s

/-- The result of a collection is consistent, and its statistics count what it lists. Hence a
selection from it finds every set that a group names, and what it selected for that set, and it
takes what must be built from every set that must be built, once. -/
theorem complete_consistent (buildProjects : Bool) (order : SortOrder) (cs : List Callback)
    (s s' : VariantStore) (filter : ComponentFilter) (selector : VariantSelector) :
    let results := (Visitor.run ({ buildProjects, order } : ArtifactCollector) cs).1.complete s
    results.Consistent ∧
    (∀ id ∈ results.sets.keys, (results.artifactSet id).id? = some id) ∧
    (∀ id, id ∉ results.sets.keys → results.artifactSet id = ∅) ∧
    results.statistics =
      ⟨results.nodes.length, results.sets.keys.length, results.buildableIds.length⟩ ∧
    results.sets.keys.Nodup ∧ results.buildableIds.Nodup ∧
    (∀ id ∈ results.groupedIds, ∃ set, results.sets.get? id = some set ∧ set.id? = some id ∧
      (results.selectionCache s' filter selector).get? id =
        some (set.select s' filter selector)) ∧
    (∃ built : List ArtifactSetId, built.Perm results.buildableIds ∧
      (results.select s' filter selector).buildDependencies.toList =
        built.flatMap (results.takenUnder s' filter selector)) := by
  intro results
  have h : results.Consistent := consistent_run s buildProjects order cs
  refine ⟨h, ?_, ?_, results.statistics_eq, Table.nodup_keys _, Table.nodup_keys _, ?_,
    results.builtIds, h.builtIds_perm,
    results.toList_buildDependencies_eq_builtIds s' filter selector⟩
  · intro id hid
    obtain ⟨set, hget, hset⟩ := h.exists_get? hid
    rw [ArtifactResults.artifactSet, hget]
    exact hset
  · intro id hid
    rw [ArtifactResults.artifactSet, Table.get?_eq_none_iff.2 hid, Option.getD_none]
  · intro id hid
    obtain ⟨set, hget, hset⟩ := h.exists_get? ((h.grouped_iff id).1 hid)
    have hcache := results.get?_selectionCache_of_mem s' filter selector hid
    rw [ArtifactResults.artifactSet, hget] at hcache
    exact ⟨set, hget, hset, hcache⟩

end ArtifactCollector

end ArtifactResolution
