import ArtifactResolution.Proofs.ArtifactCollector.Run
import ArtifactResolution.Proofs.Graph.SortedNodes
import ArtifactResolution.Proofs.Table

namespace ArtifactResolution
set_option autoImplicit false

open Callback

/-- The nodes of a result: by default those of the visits, in the order of the first visits; in any
other order those that the sort of the started walk lists. -/
def SortOrder.nodes (order : SortOrder) (cs : List Callback) : List NodeId :=
  if order.isDefault then ((deliveries cs).map (·.1)).eraseDups
  else (starts cs).head?.elim [] fun walk => walk.1.sort walk.2 order

namespace ArtifactCollector
variable {c c' : ArtifactCollector} {callback : Callback} {node other : NodeId} {set : ArtifactSet}
  {ids : OrderedSet ArtifactSetId} {graph : Graph} {root : NodeId} {done : List Callback}

theorem of_start_eq_ok (h : c.start graph root = .ok c') :
    c.started = false ∧ c' =
      { c with
        started := true
        groups := if c.order.isDefault then c.groups
          else (graph.sort root c.order).foldl (fun groups node => groups.insert node ∅) c.groups } := by
  rw [start] at h
  split at h
  · cases h
  · next hstarted =>
    refine ⟨by simpa using hstarted, ?_⟩
    split at h <;> cases h <;> simp [*]

theorem of_group_eq_ok (h : c.group node = .ok ids) :
    ids = (c.groups.get? node).getD ∅ ∧ (c.order.isDefault ∨ node ∈ c.groups.keys) := by
  rw [group] at h
  split at h
  · next hdefault =>
    cases h
    exact ⟨rfl, .inl hdefault⟩
  · split at h
    · cases h
    · split at h
      · next hget =>
        cases h
        refine ⟨by rw [hget]; rfl, .inr ?_⟩
        rw [Table.mem_keys_iff, Table.contains_eq_isSome_get?, hget]
        rfl
      · cases h

theorem of_record_eq_ok (h : c.record node set = .ok c') :
    ∃ ids, c.group node = .ok ids ∧ c' =
      { c with
        groups := c.groups.insert node (set.id?.elim ids ids.insert)
        sets := set.id?.elim c.sets fun id => c.sets.insert id set } := by
  obtain ⟨ids, hgroup, rfl⟩ := exists_of_map_eq_ok h
  refine ⟨ids, hgroup, ?_⟩
  cases set.id? <;> rfl

/-- What an accepted callback does: it starts the collection, records a delivered set and perhaps
marks it, or changes nothing. -/
inductive Change (c : ArtifactCollector) : Callback → ArtifactCollector → Prop
  | started {graph : Graph} {root : NodeId} {c' : ArtifactCollector}
      (hstart : c.start graph root = .ok c') : Change c (.start graph root) c'
  | visited {callback : Callback} {node : NodeId} {set : ArtifactSet} {c' : ArtifactCollector}
      (buildable : OrderedSet ArtifactSetId) (hdelivery : callback.delivery? = some (node, set))
      (hrecord : c.record node set = .ok c') : Change c callback { c' with buildable }
  | finished : Change c .finish c

theorem exists_buildable_markNode (c : ArtifactCollector) (source target : Node)
    (id : ArtifactSetId) :
    ∃ buildable, c.markNode source target id = { c with buildable } := by
  rw [markNode]
  split
  · exact ⟨_, rfl⟩
  · exact ⟨_, rfl⟩

theorem Change.of_accept (h : c.accept callback = .ok c') : Change c callback c' := by
  cases callback with
  | start graph root => exact .started h
  | visitNode source target set =>
    obtain ⟨c₁, hrecord, rfl⟩ := exists_of_map_eq_ok h
    cases set.id? with
    | none => exact .visited c₁.buildable rfl hrecord
    | some id =>
      obtain ⟨buildable, hmark⟩ := exists_buildable_markNode c₁ source target id
      rw [Option.elim_some, hmark]
      exact .visited buildable rfl hrecord
  | visitFile source dependency set =>
    obtain ⟨c₁, hrecord, rfl⟩ := exists_of_map_eq_ok h
    cases set.id? with
    | none => exact .visited c₁.buildable rfl hrecord
    | some id => exact .visited (c₁.buildable.insert id) rfl hrecord
  | finish =>
    cases h
    exact .finished

theorem Change.settings_eq (h : c.Change callback c') :
    c'.buildProjects = c.buildProjects ∧ c'.order = c.order := by
  cases h with
  | started hstart =>
    obtain ⟨_, rfl⟩ := of_start_eq_ok hstart
    exact ⟨rfl, rfl⟩
  | visited buildable _ hrecord =>
    obtain ⟨_, _, rfl⟩ := of_record_eq_ok hrecord
    exact ⟨rfl, rfl⟩
  | finished => exact ⟨rfl, rfl⟩

theorem settings_run (c : ArtifactCollector) (cs : List Callback) :
    (Visitor.run c cs).1.buildProjects = c.buildProjects ∧
      (Visitor.run c cs).1.order = c.order := by
  apply run_induction (c := c)
    (p := fun _ c' => c'.buildProjects = c.buildProjects ∧ c'.order = c.order) ⟨rfl, rfl⟩
  rintro _ c₁ callback c₂ ⟨hprojects, horder⟩ h
  obtain ⟨hprojects', horder'⟩ := (Change.of_accept h).settings_eq
  exact ⟨hprojects'.trans hprojects, horder'.trans horder⟩

theorem order_run (c : ArtifactCollector) (cs : List Callback) :
    (Visitor.run c cs).1.order = c.order :=
  (settings_run c cs).2

/-- The state holds what the accepted callbacks have told. -/
structure Collected (c : ArtifactCollector) (done : List Callback) : Prop where
  starts_eq : (starts done).length = c.started.toNat
  keys_eq : c.groups.keys = c.order.nodes done
  ids_eq : ∀ node, ((c.groups.get? node).getD ∅).toList = (idsFor node done).eraseDups
  sets_eq : c.sets.Records (identified done)

namespace Collected

theorem of_fresh (buildProjects : Bool) (order : SortOrder) :
    Collected { buildProjects, order } [] where
  starts_eq := rfl
  keys_eq := by
    rw [SortOrder.nodes]
    split <;> rfl
  ids_eq node := by simp; rfl
  sets_eq := Table.records_empty

theorem start (hc : c.Collected done) (h : c.start graph root = .ok c') :
    c'.Collected (done ++ [.start graph root]) := by
  obtain ⟨hfresh, rfl⟩ := of_start_eq_ok h
  have hnone : starts done = [] := by
    rw [← List.length_eq_zero_iff, hc.starts_eq, hfresh]
    rfl
  have hstarts : starts (done ++ [.start graph root]) = [(graph, root)] := by
    rw [starts_concat, hnone]
    rfl
  have hdeliveries : deliveries (done ++ [.start graph root]) = deliveries done :=
    deliveries_concat_of_none rfl
  have hkeys := hc.keys_eq
  have hids := hc.ids_eq
  rw [SortOrder.nodes, hnone] at hkeys
  constructor
  case starts_eq =>
    rw [hstarts]
    rfl
  case keys_eq =>
    rw [SortOrder.nodes, hstarts, hdeliveries]
    cases hdefault : c.order.isDefault with
    | true => simpa [hdefault] using hkeys
    | false =>
      -- Before its start a collection in a sorted order has no groups.
      have hkeys' : c.groups.keys = ([] : List NodeId).eraseDups := by simpa [hdefault] using hkeys
      have hsorted := Table.keys_foldl_insert hkeys' ∅ (graph.sort root c.order)
      rw [List.nil_append, eraseDups_of_nodup (Graph.nodup_sort graph root c.order)] at hsorted
      simpa [hdefault] using hsorted
  case ids_eq =>
    intro node
    rw [idsFor, hdeliveries, ← idsFor, ← hids node]
    cases hdefault : c.order.isDefault with
    | true => simp
    | false =>
      have hmissing : c.groups.get? node = none := by
        rw [Table.get?_eq_none_iff, hkeys, hdefault]
        exact List.not_mem_nil
      have hgroup : (c.groups.get? node).getD ∅ = ∅ := by rw [hmissing, Option.getD_none]
      have hsorted := Table.getD_get?_foldl_insert hgroup (graph.sort root c.order)
      rw [hgroup]
      exact congrArg OrderedSet.toList hsorted
  case sets_eq =>
    rw [identified, hdeliveries]
    exact hc.sets_eq

theorem visit (hc : c.Collected done) (hdelivery : callback.delivery? = some (node, set))
    (h : c.record node set = .ok c') : c'.Collected (done ++ [callback]) := by
  obtain ⟨ids, hgroup, rfl⟩ := of_record_eq_ok h
  obtain ⟨rfl, hplace⟩ := of_group_eq_ok hgroup
  have hstarts : starts (done ++ [callback]) = starts done :=
    starts_concat_of_none (start?_of_delivery hdelivery)
  have hdeliveries : deliveries (done ++ [callback]) = deliveries done ++ [(node, set)] := by
    rw [deliveries_concat, hdelivery]
    rfl
  constructor
  case starts_eq => rw [hstarts, hc.starts_eq]
  case keys_eq =>
    have hkeys := hc.keys_eq
    rw [SortOrder.nodes] at hkeys
    rw [SortOrder.nodes, hstarts, hdeliveries]
    cases hdefault : c.order.isDefault with
    | true =>
      rw [hdefault, if_pos rfl] at hkeys
      simpa [hdefault] using Table.keys_insert_of_eraseDups hkeys node _
    | false =>
      have hmem : node ∈ c.groups.keys := by simpa [hdefault] using hplace
      rw [Table.keys_insert_of_mem _ hmem, hkeys]
      simp [hdefault]
  case ids_eq =>
    intro other
    have hids := hc.ids_eq other
    rw [idsFor, hdeliveries, List.filterMap_append]
    by_cases hother : node = other
    · subst hother
      cases hid : set.id? with
      | none => simpa [hid, idsFor] using hids
      | some id => simpa [hid, idsFor] using OrderedSet.toList_insert_of_eraseDups hids id
    · simpa [hother, idsFor, Table.get?_insert_of_ne] using hids
  case sets_eq =>
    rw [identified, hdeliveries, List.filterMap_append]
    cases hid : set.id? with
    | none => simpa [hid, identified] using hc.sets_eq
    | some id => simpa [hid, identified] using hc.sets_eq.insert id set

theorem finish (hc : c.Collected done) : c.Collected (done ++ [.finish]) := by
  have hstarts : starts (done ++ [.finish]) = starts done := starts_concat_of_none rfl
  have hdeliveries : deliveries (done ++ [.finish]) = deliveries done :=
    deliveries_concat_of_none rfl
  constructor
  case starts_eq => rw [hstarts, hc.starts_eq]
  case keys_eq => rw [SortOrder.nodes, hstarts, hdeliveries, hc.keys_eq, SortOrder.nodes]
  case ids_eq =>
    intro node
    rw [idsFor, hdeliveries, hc.ids_eq, idsFor]
  case sets_eq =>
    rw [identified, hdeliveries]
    exact hc.sets_eq

theorem change (hc : c.Collected done) (h : c.Change callback c') :
    c'.Collected (done ++ [callback]) := by
  cases h with
  | started hstart => exact hc.start hstart
  | visited buildable hdelivery hrecord =>
    obtain ⟨hstarts, hkeys, hids, hsets⟩ := hc.visit hdelivery hrecord
    exact ⟨hstarts, hkeys, hids, hsets⟩
  | finished => exact hc.finish

theorem run (buildProjects : Bool) (order : SortOrder) (cs : List Callback) :
    let fresh : ArtifactCollector := { buildProjects, order }
    (Visitor.run fresh cs).1.Collected (Visitor.accepted fresh cs) := by
  intro fresh
  apply run_induction (c := fresh) (p := fun done c => c.Collected done)
  · exact of_fresh buildProjects order
  · intro done c₁ callback c₂ hc h
    exact hc.change (.of_accept h)

end Collected

section
variable (s : VariantStore)

@[simp] theorem nodes_complete : (c.complete s).nodes = c.groups.keys := Table.keys_map _ _

theorem setIds_complete (node : NodeId) :
    (c.complete s).setIds node = ((c.groups.get? node).getD ∅).toList := by
  rw [ArtifactResults.setIds, complete, Table.get?_map]
  cases c.groups.get? node <;> rfl

@[simp] theorem get?_sets_complete (id : ArtifactSetId) :
    (c.complete s).sets.get? id = (c.sets.get? id).map (·.snapshot s) :=
  Table.get?_map _ _ _

theorem Collected.setIds_eq (hc : c.Collected done) (node : NodeId) :
    (c.complete s).setIds node = (idsFor node done).eraseDups := by
  rw [setIds_complete, hc.ids_eq]

theorem Collected.artifactSet_eq (hc : c.Collected done) (id : ArtifactSetId) :
    (c.complete s).artifactSet id = ((lastSet? done id).map (·.snapshot s)).getD ∅ := by
  rw [ArtifactResults.artifactSet, get?_sets_complete, hc.sets_eq.get?_eq, lastSet?]

end

theorem get?_groups_receive (hdelivery : callback.delivery? = some (other, set))
    (hne : other ≠ node) :
    (Visitor.receive c callback).1.groups.get? node = c.groups.get? node := by
  cases h : c.accept callback with
  | error e => rw [receive_of_refuse h]
  | ok c' =>
    rw [receive_of_accept h]
    cases Change.of_accept h with
    | started => cases hdelivery
    | visited buildable hdelivery' hrecord =>
      cases hdelivery.symm.trans hdelivery'
      obtain ⟨ids, _, rfl⟩ := of_record_eq_ok hrecord
      exact Table.get?_insert_of_ne _ _ hne
    | finished => cases hdelivery

/-- The result of a collection is a function of the accepted callbacks. Its nodes are those that the
order gives, from the visits or from the only start that is accepted; the group of a node has the
identities of the sets delivered for it, in the order of the first deliveries; under every delivered
identity it holds the last set, as it is at the end. A visit for one node does not change the group
of another. -/
theorem complete_eq_collected (buildProjects : Bool) (order : SortOrder) (cs : List Callback)
    (s : VariantStore) :
    let fresh : ArtifactCollector := { buildProjects, order }
    let accepted := Visitor.accepted fresh cs
    let results (cs : List Callback) := (Visitor.run fresh cs).1.complete s
    (results cs).nodes = order.nodes accepted ∧
    (starts accepted).length ≤ 1 ∧
    (∀ node, (results cs).setIds node = (idsFor node accepted).eraseDups) ∧
    (results cs).sets.keys = ((identified accepted).map (·.1)).eraseDups ∧
    (∀ id, (results cs).sets.get? id = (lastSet? accepted id).map (·.snapshot s)) ∧
    (∀ id, (results cs).artifactSet id = ((lastSet? accepted id).map (·.snapshot s)).getD ∅) ∧
    (∀ visit visited set, visit.delivery? = some (visited, set) → ∀ node, visited ≠ node →
      (results (cs ++ [visit])).groups.get? node = (results cs).groups.get? node) := by
  intro fresh accepted results
  have hc : (Visitor.run fresh cs).1.Collected accepted := Collected.run buildProjects order cs
  refine ⟨?_, ?_, hc.setIds_eq s, ?_, ?_, hc.artifactSet_eq s, ?_⟩
  · rw [nodes_complete, hc.keys_eq, order_run]
  · rw [hc.starts_eq]
    exact Bool.toNat_le _
  · exact (Table.keys_map _ _).trans hc.sets_eq.keys_eq
  · intro id
    rw [get?_sets_complete, hc.sets_eq.get?_eq, lastSet?]
  · intro visit visited set hdelivery node hne
    have hget := get?_groups_receive (c := (Visitor.run fresh cs).1) hdelivery hne
    simp only [results, complete, Table.get?_map, Visitor.run_append, Visitor.run, hget]

end ArtifactCollector

end ArtifactResolution
