import ArtifactResolution.Proofs.ArtifactCollector.VisitOrder
import ArtifactResolution.Proofs.Fanout
import ArtifactResolution.Proofs.FileCollector.RootVisits
import ArtifactResolution.Proofs.Selection.WithoutCache

namespace ArtifactResolution
set_option autoImplicit false

theorem Visitor.run_pair {σ τ : Type} [Visitor σ] [Visitor τ] (v : σ) (w : τ)
    (cs : List Callback) :
    (run ([.inl v, .inr w] : List (σ ⊕ τ)) cs).1 =
      [.inl (run v cs).1, .inr (run w (accepted v cs)).1] := by
  have hleft : ∀ (v : σ) (c : Callback),
      receive (.inl v : σ ⊕ τ) c = (receive v c).map .inl id := fun _ _ => rfl
  have hright : ∀ (w : τ) (c : Callback),
      receive (.inr w : σ ⊕ τ) c = (receive w c).map .inr id := fun _ _ => rfl
  rw [run_group_cons, run_group_cons, run_embedded hleft, accepted_embedded hleft,
    run_embedded hright, run_group]
  rfl

namespace Callback
variable {told sent : List Callback} {v : FileVisit}

def nodeSetId? : Callback → Option ArtifactSetId
  | start .. => none
  | visitNode _ _ set => set.id?
  | visitFile .. => none
  | finish => none

def nodeSetIds (cs : List Callback) : List ArtifactSetId := cs.filterMap nodeSetId?

def fileSetIds (cs : List Callback) : List ArtifactSetId := (fileVisits cs).map (·.id)

/-- No identity is delivered both for a node and for files. -/
def OneKindEach (cs : List Callback) : Prop := ∀ id ∈ nodeSetIds cs, id ∉ fileSetIds cs

instance (cs : List Callback) : Decidable (OneKindEach cs) :=
  inferInstanceAs (Decidable (∀ id ∈ nodeSetIds cs, id ∉ fileSetIds cs))

theorem mem_deliveries_of_fileVisit (hv : v ∈ fileVisits told) :
    (v.node, v.set) ∈ deliveries told := by
  obtain ⟨callback, hmem, hvisit⟩ := List.mem_filterMap.1 hv
  obtain ⟨source, dependency, rfl, hnode, _⟩ := exists_eq_visitFile hvisit
  exact mem_deliveries hmem (by rw [delivery?, hnode])

theorem mem_identified_of_fileVisit (hv : v ∈ fileVisits told) :
    (v.id, v.set) ∈ identified told :=
  mem_identified_iff.2 ⟨v.node, mem_deliveries_of_fileVisit hv, id?_of_mem_fileVisits hv⟩

theorem exists_required_of_fileVisit (hv : v ∈ fileVisits told) (buildProjects : Bool) :
    ∃ visit ∈ told, visit.required? buildProjects = some v.id := by
  obtain ⟨callback, hmem, hvisit⟩ := List.mem_filterMap.1 hv
  obtain ⟨source, dependency, rfl, _, hid⟩ := exists_eq_visitFile hvisit
  exact ⟨_, hmem, hid⟩

theorem filter_idsFor (hkind : OneKindEach sent) (hsubset : told ⊆ sent) (node : NodeId) :
    (idsFor node told).filter (· ∈ fileSetIds sent) =
      (FileVisit.setsOf node (fileVisits told)).map (·.1) := by
  rw [idsFor, deliveries, List.filterMap_filterMap, List.filter_filterMap, FileVisit.setsOf,
    fileVisits, List.filterMap_filterMap, List.map_filterMap]
  apply List.filterMap_congr
  intro callback hmem
  have hsent := hsubset hmem
  cases callback with
  | start => rfl
  | visitNode source target set =>
    have hnone (id : ArtifactSetId) (hid : set.id? = some id) : id ∉ fileSetIds sent :=
      hkind id (List.mem_filterMap.2 ⟨_, hsent, hid⟩)
    by_cases hnode : target.id = node
    · cases hid : set.id? with
      | none => simp [delivery?, fileVisit?, hnode, hid]
      | some id => simp [delivery?, fileVisit?, hnode, hid, hnone id hid]
    · simp [delivery?, fileVisit?, hnode]
  | visitFile source dependency set =>
    have hfile (id : ArtifactSetId) (hid : set.id? = some id) : id ∈ fileSetIds sent :=
      List.mem_map.2 ⟨⟨source.id, dependency.id, id, set⟩,
        List.mem_filterMap.2 ⟨_, hsent, by rw [fileVisit?, hid]; rfl⟩, rfl⟩
    by_cases hnode : source.id = node
    · cases hid : set.id? with
      | none => simp [delivery?, fileVisit?, hnode, hid]
      | some id => simp [delivery?, fileVisit?, hnode, hid, hfile id hid]
    · cases hid : set.id? <;> simp [delivery?, fileVisit?, hnode, hid]
  | finish => rfl

end Callback

open Callback ArtifactCollector

structure ToldTogether (c : ArtifactCollector) (f : FileCollector) (told : List Callback) :
    Prop where
  artifacts : c.Told told
  files : f.Collected (fileVisits told) ((rootVisits told).map fun v => (v.dependency, v.set))

namespace ToldTogether
variable {c : ArtifactCollector} {f : FileCollector} {told sent : List Callback} {v : FileVisit}
  {s s' t t' : VariantStore} {filter : ComponentFilter} {selector : VariantSelector}
  {node : NodeId} {set : ArtifactSet}

theorem of_run (buildProjects : Bool) (order : SortOrder) (cs : List Callback) :
    let fresh : ArtifactCollector := { buildProjects, order }
    ToldTogether (Visitor.run fresh cs).1
      (Visitor.run ({} : FileCollector) (Visitor.accepted fresh cs)).1
      (Visitor.accepted fresh cs) :=
  ⟨.of_run buildProjects order cs, FileCollector.collected_rootVisits _⟩

theorem mem_setIds (h : ToldTogether c f told) (hv : v ∈ fileVisits told) :
    v.id ∈ (c.complete s).setIds v.node := by
  rw [h.artifacts.collected.setIds_eq, List.mem_eraseDups, mem_idsFor_iff]
  exact ⟨v.set, mem_deliveries_of_fileVisit hv, id?_of_mem_fileVisits hv⟩

theorem isBuildable (h : ToldTogether c f told) (hv : v ∈ fileVisits told) :
    (c.complete s).isBuildable v.id :=
  h.artifacts.marked_iff.2 (exists_required_of_fileVisit hv c.buildProjects)

theorem nodes_subset (h : ToldTogether c f told) :
    (f.complete s').nodes ⊆ (c.complete s).nodes := by
  intro node hnode
  rw [h.files.nodes_eq, List.mem_eraseDups] at hnode
  obtain ⟨v, hv, rfl⟩ := List.mem_map.1 hnode
  have hid : v.id ∈ (c.complete s).setIds v.node := h.mem_setIds hv
  by_contra hmissing
  rw [ArtifactResults.setIds_of_notMem _ hmissing] at hid
  cases hid

theorem setIds_eq_filter (h : ToldTogether c f told) (hkind : OneKindEach sent)
    (hsubset : told ⊆ sent) :
    (f.complete s').setIds node =
      ((c.complete s).setIds node).filter (· ∈ fileSetIds sent) := by
  rw [h.files.setIds_eq, h.artifacts.collected.setIds_eq, ← eraseDups_filter,
    filter_idsFor hkind hsubset]

theorem exists_visit_of_mem_sets (h : ToldTogether c f told)
    (hset : set ∈ (f.complete s).sets node) :
    ∃ v ∈ fileVisits told, v.node = node ∧ set = v.set.snapshot s := by
  rw [h.files.sets_complete] at hset
  obtain ⟨live, hlive, rfl⟩ := List.mem_map.1 hset
  obtain ⟨id, _, hlookup⟩ := List.mem_filterMap.1 hlive
  obtain ⟨v, hv, hnode, hentry⟩ := mem_setsOf_iff.1 (List.mem_reverse.1 (mem_of_lookup hlookup))
  obtain ⟨_, rfl⟩ := Prod.mk.inj hentry
  exact ⟨v, hv, hnode, rfl⟩

theorem exists_visit_of_mem_entries (h : ToldTogether c f told)
    {e : ArtifactSetId × ArtifactSet} (he : e ∈ (f.complete s).entries) :
    ∃ v ∈ fileVisits told, e = (v.id, v.set.snapshot s) := by
  obtain ⟨hid, hplace⟩ := FileResults.exists_of_mem_entries he
  obtain ⟨v, hv, hset⟩ : ∃ v ∈ fileVisits told, e.2 = v.set.snapshot s := by
    rcases hplace with ⟨node, hset⟩ | ⟨dependency, hget⟩
    · obtain ⟨v, hv, _, hset⟩ := h.exists_visit_of_mem_sets hset
      exact ⟨v, hv, hset⟩
    · obtain ⟨v, hv, _, hset⟩ := h.files.exists_rootVisit hget
      exact ⟨v, rootVisits_subset told hv, hset⟩
  rw [hset, ArtifactSet.id?_snapshot, id?_of_mem_fileVisits hv] at hid
  exact ⟨v, hv, Prod.ext (Option.some.inj hid).symm hset⟩

theorem artifactSet_eq (h : ToldTogether c f told) (hone : OneSetEach told)
    (hv : v ∈ fileVisits told) : (c.complete s).artifactSet v.id = v.set.snapshot s := by
  rw [h.artifacts.collected.artifactSet_eq,
    hone.lastSet?_eq_some_iff.2 (mem_identified_of_fileVisit hv)]
  rfl

theorem representative_eq (h : ToldTogether c f told) (hone : OneSetEach told)
    (hset : set ∈ (f.complete s).sets node) (hv : v ∈ fileVisits told)
    (hvisit : set = v.set.snapshot s) :
    (f.complete s).representative set = (c.complete s).artifactSet v.id := by
  have hid : set.id? = some v.id := by
    rw [hvisit, ArtifactSet.id?_snapshot, id?_of_mem_fileVisits hv]
  obtain ⟨first, hfirst⟩ := exists_lookup_of_mem (FileResults.mem_entries_of_mem_sets hset hid)
  obtain ⟨v', hv', hentry⟩ := h.exists_visit_of_mem_entries (mem_of_lookup hfirst)
  obtain ⟨hsame, rfl⟩ := Prod.mk.inj hentry
  rw [FileResults.representative, hid, Option.bind_some, hfirst, Option.getD_some, hsame,
    h.artifactSet_eq hone hv']

theorem exists_taken (h : ToldTogether c f told) (hone : OneSetEach told) (t : VariantStore)
    {a : ResolvedArtifact}
    (ha : a ∈ (((f.complete s).select t' filter selector).artifactsFor node).toList) :
    ∃ v ∈ fileVisits told, v.node = node ∧
      a ∈ (c.complete s).takenUnder t filter selector v.id := by
  rw [FileResults.toList_artifactsFor] at ha
  obtain ⟨set, hset, ha⟩ := List.mem_flatMap.1 ha
  obtain ⟨v, hv, hnode, hvisit⟩ := h.exists_visit_of_mem_sets hset
  refine ⟨v, hv, hnode, ?_⟩
  rw [h.representative_eq hone hset hv hvisit] at ha
  have hsnapshot : ((c.complete s).artifactSet v.id).isSnapshot := by
    rw [h.artifactSet_eq hone hv]
    exact ArtifactSet.isSnapshot_snapshot s v.set
  rwa [ArtifactResults.takenUnder_eq, ArtifactSet.select_eq_of_isSnapshot hsnapshot t t']

theorem artifactsFor_subset (h : ToldTogether c f told) (hone : OneSetEach told) :
    (((f.complete s).select t' filter selector).artifactsFor node).toList ⊆
      (((c.complete s).select t filter selector).artifactsFor node).toList := by
  intro a ha
  obtain ⟨v, hv, rfl, htaken⟩ := h.exists_taken hone t ha
  rw [ArtifactResults.toList_artifactsFor_eq_takenFor, ArtifactResults.takenFor_eq_flatMap]
  exact List.mem_flatMap.2 ⟨v.id, h.mem_setIds hv, htaken⟩

theorem artifacts_subset (h : ToldTogether c f told) (hone : OneSetEach told) :
    ((f.complete s).select t' filter selector).artifacts.toList ⊆
      ((c.complete s).select t filter selector).buildDependencies.toList := by
  intro a ha
  rw [FileResults.toList_artifacts] at ha
  obtain ⟨node, _, ha⟩ := List.mem_flatMap.1 ha
  obtain ⟨v, hv, _, htaken⟩ := h.exists_taken hone t ha
  rw [ArtifactResults.toList_buildDependencies_eq_builtIds]
  have hbuilt : v.id ∈ (c.complete s).builtIds :=
    (ArtifactResults.mem_builtIds_iff _).2 ⟨h.isBuildable hv, v.node, h.mem_setIds hv⟩
  exact List.mem_flatMap.2 ⟨v.id, hbuilt, htaken⟩

end ToldTogether

/-- Two collectors are told together, that of artifacts first. All nodes of the files are nodes of the
artifacts, and every set of a node's files is a set of the node and is to be built. If every identity
comes with one set, then what is taken of a node's files is taken of the node, and what is taken of
all files is to be built. If no identity is delivered both for a node and for files, whether or not
the refused callbacks are counted, then the sets of a node's files are exactly those of its sets that
are delivered as files, in the same order. -/
theorem files_within_artifacts (buildProjects : Bool) (order : SortOrder) (cs : List Callback) :
    let fresh : ArtifactCollector := { buildProjects, order }
    let told := Visitor.accepted fresh cs
    ∃ (c : ArtifactCollector) (f : FileCollector),
      (Visitor.run ([.inl fresh, .inr {}] : List (ArtifactCollector ⊕ FileCollector)) cs).1 =
        [.inl c, .inr f] ∧
      (∀ s s', (f.complete s').nodes ⊆ (c.complete s).nodes ∧
        ∀ node, ∀ id ∈ (f.complete s').setIds node,
          id ∈ (c.complete s).setIds node ∧ (c.complete s).isBuildable id) ∧
      (OneSetEach told → ∀ s t t' filter selector,
        let artifacts := (c.complete s).select t filter selector
        let files := (f.complete s).select t' filter selector
        (∀ node, (files.artifactsFor node).toList ⊆ (artifacts.artifactsFor node).toList) ∧
          files.artifacts.toList ⊆ artifacts.buildDependencies.toList) ∧
      (∀ sent, told ⊆ sent → OneKindEach sent → ∀ s s' node, (f.complete s').setIds node =
        ((c.complete s).setIds node).filter (· ∈ fileSetIds sent)) := by
  intro fresh told
  have h : ToldTogether (Visitor.run fresh cs).1 (Visitor.run ({} : FileCollector) told).1 told :=
    .of_run buildProjects order cs
  refine ⟨_, _, Visitor.run_pair fresh _ cs, ?_, ?_, ?_⟩
  · intro s s'
    refine ⟨h.nodes_subset, ?_⟩
    intro node id hid
    obtain ⟨v, hv, rfl, rfl⟩ := h.files.mem_setIds_iff.1 hid
    exact ⟨h.mem_setIds hv, h.isBuildable hv⟩
  · intro hone s t t' filter selector artifacts files
    exact ⟨fun node => h.artifactsFor_subset hone, h.artifacts_subset hone⟩
  · intro sent hsubset hkind s s' node
    exact h.setIds_eq_filter hkind hsubset

/-- A visit before the start and a second start are refused, and so they are not told to the
collector of files. -/
theorem files_within_artifacts_mesh :
    let fresh : ArtifactCollector := { buildProjects := true, order := .consumerFirst }
    let walk : List Callback := .start mesh ⟨1⟩ :: meshVisits
    let cs := meshVisits.take 1 ++ (walk ++ [.start mesh ⟨2⟩])
    (Visitor.accepted fresh cs = walk ∧ OneSetEach walk ∧ OneKindEach cs) ∧
    ∃ (c : ArtifactCollector) (f : FileCollector),
      (Visitor.run ([.inl fresh, .inr {}] : List (ArtifactCollector ⊕ FileCollector)) cs).1 =
        [.inl c, .inr f] ∧
      ((f.complete meshStore).select meshStore .acceptAll .first).artifacts.toList ⊆
        ((c.complete meshStore).select meshStore .acceptAll .first).buildDependencies.toList ∧
      (f.complete meshStore).setIds ⟨2⟩ =
        ((c.complete meshStore).setIds ⟨2⟩).filter (· ∈ fileSetIds cs) := by
  intro fresh walk cs
  have hreach : DeliverReachable mesh ⟨1⟩ (meshVisits ++ [.start mesh ⟨2⟩]) :=
    deliverReachable_mesh
  have hfirst : Visitor.accepted fresh (meshVisits.take 1) = [] ∧
      (Visitor.run fresh (meshVisits.take 1)).1 = fresh := ⟨rfl, rfl⟩
  have haccepted : Visitor.accepted fresh cs = walk := by
    rw [Visitor.accepted_append, hfirst.1, hfirst.2, List.nil_append]
    exact accepted_of_reachable hreach true .consumerFirst
  have hone : OneSetEach walk := oneSetEach_mesh
  have hkind : OneKindEach cs := by decide
  obtain ⟨c, f, hrun, _, htaken, hids⟩ := files_within_artifacts true .consumerFirst cs
  have hsent : Visitor.accepted fresh cs ⊆ cs := Visitor.accepted_subset fresh cs
  obtain ⟨_, hbuilt⟩ := htaken (haccepted ▸ hone) meshStore meshStore meshStore .acceptAll .first
  exact ⟨⟨haccepted, hone, hkind⟩, c, f, hrun, hbuilt, hids cs hsent hkind meshStore meshStore ⟨2⟩⟩

end ArtifactResolution
