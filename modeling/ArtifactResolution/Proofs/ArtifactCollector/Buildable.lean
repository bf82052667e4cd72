import ArtifactResolution.Proofs.ArtifactCollector.Run
import ArtifactResolution.Proofs.Table

namespace ArtifactResolution
set_option autoImplicit false

/-- The set that a visit asks to be built: a set of files always, the set of a node if the node is
local, is not reached from a project of another build, and projects are built at all. -/
def Callback.required? (buildProjects : Bool) : Callback → Option ArtifactSetId
  | visitFile _ _ set => set.id?
  | visitNode source target set =>
    if target.configuration.isLocal && !source.owner.isForeignProject && buildProjects then set.id?
    else none
  | start .. => none
  | finish => none

theorem BuildDecision.isBuildable_ofEdge (source target : Node) (buildProjects marked : Bool) :
    (ofEdge source target buildProjects marked).isBuildable =
      (!marked && (target.configuration.isLocal && !source.owner.isForeignProject &&
        buildProjects)) := by
  cases marked <;> cases h : target.configuration.isLocal <;> cases buildProjects <;>
    cases h' : source.owner.isForeignProject <;> simp [ofEdge, h, h', isBuildable]

namespace ArtifactCollector
variable {c c' : ArtifactCollector} {callback : Callback} {node : NodeId} {set : ArtifactSet}
  {ids : List ArtifactSetId}

theorem record_frame (h : c.record node set = .ok c') :
    c'.buildProjects = c.buildProjects ∧ c'.buildable = c.buildable := by
  obtain ⟨group, _, rfl⟩ := exists_of_map_eq_ok h
  cases set.id? <;> exact ⟨rfl, rfl⟩

theorem start_frame {graph : Graph} {root : NodeId} (h : c.start graph root = .ok c') :
    c'.buildProjects = c.buildProjects ∧ c'.buildable = c.buildable := by
  rw [start] at h
  split at h
  · cases h
  · split at h <;> cases h <;> exact ⟨rfl, rfl⟩

theorem toList_buildable_markNode (h : c.buildable.toList = ids.eraseDups) (source target : Node)
    {id : ArtifactSetId} (hid : set.id? = some id) :
    (c.markNode source target id).buildable.toList =
      (ids ++ ((Callback.visitNode source target set).required? c.buildProjects).toList).eraseDups := by
  rw [markNode, BuildDecision.isBuildable_ofEdge, Callback.required?, hid]
  cases target.configuration.isLocal && !source.owner.isForeignProject && c.buildProjects with
  | false => simpa using h
  | true =>
    cases hmarked : c.buildable.contains id with
    | false => exact OrderedSet.toList_insert_of_eraseDups h id
    | true =>
      -- The set keeps the place at which it was marked first.
      have hmem : id ∈ ids.eraseDups := h ▸ OrderedSet.mem_toList_iff.2 hmarked
      simp [h, eraseDups_concat, hmem]

theorem buildable_accept (h : c.accept callback = .ok c')
    (hids : c.buildable.toList = ids.eraseDups) :
    c'.buildProjects = c.buildProjects ∧ c'.buildable.toList =
      (ids ++ (callback.required? c.buildProjects).toList).eraseDups := by
  cases callback with
  | start graph root =>
    obtain ⟨hprojects, hbuildable⟩ := start_frame h
    exact ⟨hprojects, by simpa [hbuildable, Callback.required?] using hids⟩
  | visitNode source target set =>
    obtain ⟨c₁, hrecord, rfl⟩ := exists_of_map_eq_ok h
    obtain ⟨hprojects, hbuildable⟩ := record_frame hrecord
    rw [← hbuildable] at hids
    cases hid : set.id? with
    | none => exact ⟨hprojects, by simpa [Callback.required?, hid] using hids⟩
    | some id =>
      refine ⟨?_, hprojects ▸ toList_buildable_markNode hids source target hid⟩
      rw [← hprojects, Option.elim_some, markNode]
      split <;> rfl
  | visitFile source dependency set =>
    obtain ⟨c₁, hrecord, rfl⟩ := exists_of_map_eq_ok h
    obtain ⟨hprojects, hbuildable⟩ := record_frame hrecord
    rw [← hbuildable] at hids
    cases hid : set.id? with
    | none => exact ⟨hprojects, by simpa [Callback.required?, hid] using hids⟩
    | some id =>
      have hmark : (c₁.mark id).buildable.toList = (ids ++ [id]).eraseDups :=
        OrderedSet.toList_insert_of_eraseDups hids id
      exact ⟨hprojects, by simpa [Callback.required?, hid] using hmark⟩
  | finish =>
    cases h
    exact ⟨rfl, by simpa [Callback.required?] using hids⟩

theorem toList_buildable_run (buildProjects : Bool) (order : SortOrder) (cs : List Callback) :
    let fresh : ArtifactCollector := { buildProjects, order }
    (Visitor.run fresh cs).1.buildable.toList =
      ((Visitor.accepted fresh cs).filterMap (Callback.required? buildProjects)).eraseDups := by
  intro fresh
  have hkeeps := run_induction (c := fresh)
    (p := fun done c => c.buildProjects = buildProjects ∧
      c.buildable.toList = (done.filterMap (Callback.required? buildProjects)).eraseDups)
    ⟨rfl, rfl⟩ ?_ cs
  · exact hkeeps.2
  · rintro done c₁ callback c₂ ⟨hprojects, hids⟩ h
    obtain ⟨hprojects', hids'⟩ := buildable_accept h hids
    rw [hprojects] at hprojects' hids'
    refine ⟨hprojects', ?_⟩
    rw [hids', List.filterMap_append]
    cases hrequired : callback.required? buildProjects <;> simp [hrequired]

theorem isBuildable_complete (s : VariantStore) (id : ArtifactSetId) :
    (c.complete s).isBuildable id ↔ id ∈ c.buildable.toList :=
  OrderedSet.mem_toList_iff.symm

theorem isBuildable_run_iff (buildProjects : Bool) (order : SortOrder) (cs : List Callback)
    (s : VariantStore) (id : ArtifactSetId) :
    let fresh : ArtifactCollector := { buildProjects, order }
    ((Visitor.run fresh cs).1.complete s).isBuildable id ↔
      ∃ callback ∈ Visitor.accepted fresh cs, callback.required? buildProjects = some id := by
  intro fresh
  rw [isBuildable_complete, toList_buildable_run, List.mem_eraseDups, List.mem_filterMap]

theorem required?_of_not_buildProjects {id : ArtifactSetId} :
    callback.required? false = some id ↔
      ∃ source dependency set, callback = .visitFile source dependency set ∧ set.id? = some id := by
  cases callback <;> simp [Callback.required?]

/-- The sets to be built are those of the accepted visits that ask for it, each once and in the
order of the first such visits. So it does not matter which callbacks stand between these visits or
in which order they come, a set once marked stays marked, and only file visits mark sets when
projects are not built. -/
theorem buildable_iff_required (buildProjects : Bool) (order : SortOrder) (cs : List Callback)
    (s : VariantStore) :
    let fresh : ArtifactCollector := { buildProjects, order }
    let results (cs : List Callback) := (Visitor.run fresh cs).1.complete s
    (∀ id, (results cs).isBuildable id ↔
      ∃ callback ∈ Visitor.accepted fresh cs, callback.required? buildProjects = some id) ∧
    (results cs).buildableIds =
      ((Visitor.accepted fresh cs).filterMap (Callback.required? buildProjects)).eraseDups ∧
    (results cs).buildableIds.Nodup ∧
    (∀ cs', (Visitor.accepted fresh cs').Perm (Visitor.accepted fresh cs) →
      ∀ id, (results cs').isBuildable id = (results cs).isBuildable id) ∧
    (∀ later, (results cs).buildableIds <+: (results (cs ++ later)).buildableIds) ∧
    (buildProjects = false → ∀ id, (results cs).isBuildable id ↔
      ∃ source dependency set, .visitFile source dependency set ∈ Visitor.accepted fresh cs ∧
        set.id? = some id) := by
  intro fresh results
  have hiff (cs : List Callback) (id : ArtifactSetId) : (results cs).isBuildable id ↔
      ∃ callback ∈ Visitor.accepted fresh cs, callback.required? buildProjects = some id :=
    isBuildable_run_iff buildProjects order cs s id
  have hids (cs : List Callback) : (results cs).buildableIds =
      ((Visitor.accepted fresh cs).filterMap (Callback.required? buildProjects)).eraseDups :=
    toList_buildable_run buildProjects order cs
  refine ⟨hiff cs, hids cs, Table.nodup_keys _, ?_, ?_, ?_⟩
  · intro cs' hperm id
    rw [Bool.eq_iff_iff, hiff, hiff]
    simp only [hperm.mem_iff]
  · intro later
    rw [hids, hids, Visitor.accepted_append, List.filterMap_append, List.eraseDups_append]
    exact List.prefix_append _ _
  · rintro rfl id
    rw [hiff]
    simp only [required?_of_not_buildProjects]
    constructor
    · rintro ⟨_, hmem, source, dependency, set, rfl, hid⟩
      exact ⟨source, dependency, set, hmem, hid⟩
    · rintro ⟨source, dependency, set, hmem, hid⟩
      exact ⟨_, hmem, source, dependency, set, rfl, hid⟩

end ArtifactCollector

end ArtifactResolution
