import ArtifactResolution.Proofs.ArtifactCollector.Told

namespace ArtifactResolution
set_option autoImplicit false

open Callback

namespace Callback
variable {cs ds : List Callback} {set : ArtifactSet}

/-- Every identity is always delivered with the same set. -/
def OneSetEach (cs : List Callback) : Prop :=
  ∀ e ∈ identified cs, ∀ e' ∈ identified cs, e.1 = e'.1 → e.2 = e'.2

theorem identified_subset (h : cs ⊆ ds) : identified cs ⊆ identified ds :=
  List.filterMap_subset _ (List.filterMap_subset _ h)

theorem OneSetEach.mono (h : OneSetEach ds) (hsubset : cs ⊆ ds) :
    OneSetEach cs :=
  fun e he e' he' => h e (identified_subset hsubset he) e' (identified_subset hsubset he')

theorem OneSetEach.lastSet?_eq_some_iff (h : OneSetEach cs)
    {id : ArtifactSetId} : lastSet? cs id = some set ↔ (id, set) ∈ identified cs := by
  refine ⟨mem_of_lastSet?, fun hmem => ?_⟩
  obtain ⟨last, hlast⟩ : ∃ last, lastSet? cs id = some last :=
    exists_lookup_of_mem (List.mem_reverse.2 hmem)
  have hset : last = set := h _ (mem_of_lastSet? hlast) _ hmem rfl
  rw [hlast, hset]

theorem OneSetEach.lastSet?_eq_of_perm (h : OneSetEach ds)
    (hperm : cs.Perm ds) (id : ArtifactSetId) : lastSet? cs id = lastSet? ds id := by
  -- What stands last changes with the order, but it is the only set of the identity.
  apply Option.ext
  intro set
  have hidentified : (identified cs).Perm (identified ds) :=
    (hperm.filterMap delivery?).filterMap _
  rw [(h.mono hperm.subset).lastSet?_eq_some_iff, h.lastSet?_eq_some_iff, hidentified.mem_iff]

end Callback

namespace ArtifactCollector
variable {c : ArtifactCollector} {callback : Callback} {node : NodeId} {set : ArtifactSet}
  {done : List Callback}

/-- What a visit for the node would record is there already. -/
structure Holds (c : ArtifactCollector) (node : NodeId) (set : ArtifactSet) : Prop where
  node_mem : node ∈ c.groups.keys
  grouped : ∀ id, set.id? = some id → ((c.groups.get? node).getD ∅).contains id
  registered : ∀ id, set.id? = some id → c.sets.get? id = some set

theorem Holds.record (h : c.Holds node set) (hadmits : c.admitsNode node) :
    c.record node set = .ok c := by
  have hok : (c.record node set).isOk := by
    rw [ArtifactCollector.record, isOk_map, isOk_group, hadmits]
  cases hrecord : c.record node set with
  | error e =>
    rw [hrecord] at hok
    cases hok
  | ok c' =>
    obtain ⟨ids, hgroup, rfl⟩ := of_record_eq_ok hrecord
    obtain ⟨hids, _⟩ := of_group_eq_ok hgroup
    have hget : c.groups.get? node = some ids := by
      have hnode := h.node_mem
      rw [Table.mem_keys_iff, Table.contains_eq_isSome_get?] at hnode
      obtain ⟨ids', hids'⟩ := Option.isSome_iff_exists.1 hnode
      rw [hids', Option.getD_some] at hids
      rw [hids', hids]
    have hgroups : c.groups.insert node (set.id?.elim ids ids.insert) = c.groups := by
      apply Table.insert_of_get?_eq_some
      cases hid : set.id? with
      | none => exact hget
      | some id =>
        rw [Option.elim_some, OrderedSet.insert_of_contains (hids ▸ h.grouped id hid), hget]
    have hsets : (set.id?.elim c.sets fun id => c.sets.insert id set) = c.sets := by
      cases hid : set.id? with
      | none => rfl
      | some id => exact Table.insert_of_get?_eq_some (h.registered id hid)
    rw [hgroups, hsets]

theorem mark_of_contains {id : ArtifactSetId} (h : c.buildable.contains id) : c.mark id = c := by
  rw [mark, OrderedSet.insert_of_contains h]

theorem markNode_of_contains {source target : Node} {id : ArtifactSetId} (hid : set.id? = some id)
    (h : (visitNode source target set).required? c.buildProjects = some id →
      c.buildable.contains id) :
    c.markNode source target id = c := by
  rw [markNode, BuildDecision.isBuildable_ofEdge]
  cases hmarked : c.buildable.contains id with
  | true => rfl
  | false =>
    -- An unmarked set was not asked for, and so the edge does not mark it now.
    rw [required?, hid, hmarked] at h
    split at h
    · exact absurd (h rfl) Bool.false_ne_true
    · next hskip => rw [if_neg (by simpa using hskip)]

theorem accept_of_holds (hdelivery : callback.delivery? = some (node, set)) (h : c.Holds node set)
    (hadmits : c.admitsNode node)
    (hmarked : ∀ id, callback.required? c.buildProjects = some id → c.buildable.contains id) :
    c.accept callback = .ok c := by
  cases callback with
  | start => cases hdelivery
  | visitNode source target set =>
    cases hdelivery
    rw [accept, h.record hadmits, Except.map]
    cases hid : set.id? with
    | none => rfl
    | some id => rw [Option.elim_some, markNode_of_contains hid (hmarked id)]
  | visitFile source dependency set =>
    cases hdelivery
    rw [accept, h.record hadmits, Except.map]
    cases hid : set.id? with
    | none => rfl
    | some id => rw [Option.elim_some, mark_of_contains (hmarked id hid)]
  | finish => cases hdelivery

theorem Collected.holds (hc : c.Collected done) (hadmits : c.admitsNode node)
    (hmem : (node, set) ∈ deliveries done)
    (hlast : ∀ id, set.id? = some id → lastSet? done id = some set) : c.Holds node set where
  node_mem := by
    rw [admitsNode, Bool.or_eq_true, Bool.and_eq_true] at hadmits
    rcases hadmits with hdefault | ⟨_, hcontains⟩
    · rw [hc.keys_eq, SortOrder.nodes, if_pos hdefault, List.mem_eraseDups]
      exact List.mem_map_of_mem hmem
    · exact Table.mem_keys_iff.2 hcontains
  grouped id hid := by
    rw [← OrderedSet.mem_toList_iff, hc.ids_eq, List.mem_eraseDups]
    exact mem_idsFor_iff.2 ⟨set, hmem, hid⟩
  registered id hid := (hc.sets_eq.get?_eq id).trans (hlast id hid)

theorem Told.accept_again (h : c.Told done) (hstarted : c.started) (hadmits : c.admits callback)
    (hdone : callback ∈ done)
    (hlast : ∀ node set id, callback.delivery? = some (node, set) → set.id? = some id →
      lastSet? done id = some set) :
    c.accept callback = .ok c := by
  cases hdelivery : callback.delivery? with
  | some d =>
    obtain ⟨node, set⟩ := d
    rw [admits_of_delivery hdelivery] at hadmits
    apply accept_of_holds hdelivery ?_ hadmits
    · exact fun id hrequired => h.marked_iff.2 ⟨callback, hdone, hrequired⟩
    · exact h.collected.holds hadmits (mem_deliveries hdone hdelivery)
        fun id hid => hlast node set id hdelivery hid
  | none =>
    have hstart := start?_of_admits hstarted hadmits
    cases callback with
    | start => cases hstart
    | visitNode => cases hdelivery
    | visitFile => cases hdelivery
    | finish => rfl

end ArtifactCollector

end ArtifactResolution
