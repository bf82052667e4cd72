import ArtifactResolution.ArtifactResults
import ArtifactResolution.FileResults
import ArtifactResolution.Proofs.ArtifactSet
import ArtifactResolution.Proofs.Table

namespace ArtifactResolution
set_option autoImplicit false

theorem ResolvedSet.toList_compose_values {κ : Type} [Ord κ] (t : Table κ ResolvedSet) :
    (compose t.values).toList = t.keys.flatMap fun k => ((t.get? k).getD ∅).toList := by
  rw [toList_compose, Table.values_eq_map_keys t ∅, List.flatMap_map]

namespace SelectionCache
variable {α : Type}

theorem get?_insert_new (select : α → ResolvedSet) (cache : SelectionCache)
    (e : ArtifactSetId × α) (id : ArtifactSetId) :
    Table.get? (if cache.contains e.1 then cache else cache.insert e.1 (select e.2)) id =
      (cache.get? id).or (if id == e.1 then some (select e.2) else none) := by
  have hcontains := cache.contains_eq_isSome_get? e.1
  by_cases hid : id = e.1
  · subst hid
    cases hget : cache.get? e.1 with
    | none => simp [hcontains, hget]
    | some selected => simp [hcontains, hget]
  · have hbeq : (id == e.1) = false := beq_eq_false_iff_ne.2 hid
    split
    · simp [hbeq]
    · simp [hbeq, Table.get?_insert_of_ne _ _ (Ne.symm hid)]

theorem get?_ofEntries (select : α → ResolvedSet) (entries : List (ArtifactSetId × α))
    (id : ArtifactSetId) : (ofEntries select entries).get? id = (entries.lookup id).map select := by
  have hfold (cache : SelectionCache) :
      Table.get? (entries.foldl (fun cache e =>
        if cache.contains e.1 then cache else cache.insert e.1 (select e.2)) cache) id =
      (cache.get? id).or ((entries.lookup id).map select) := by
    induction entries generalizing cache with
    | nil => simp
    | cons e entries ih =>
      rw [List.foldl_cons, ih, get?_insert_new, Option.or_assoc, List.lookup_cons]
      congr 1
      cases hid : id == e.1 <;> simp
  rw [ofEntries, hfold, Table.get?_empty, Option.none_or]

theorem ofEntries_congr {β : Type} {select : α → ResolvedSet} {select' : β → ResolvedSet}
    {entries : List (ArtifactSetId × α)} {entries' : List (ArtifactSetId × β)}
    (h : entries.map (Prod.map id select) = entries'.map (Prod.map id select')) :
    ofEntries select entries = ofEntries select' entries' := by
  have hfold := congrArg (ofEntries id) h
  rwa [ofEntries, ofEntries, List.foldl_map, List.foldl_map] at hfold

end SelectionCache

namespace ArtifactResults
variable (r : ArtifactResults) (s : VariantStore) (filter : ComponentFilter)
  (selector : VariantSelector)

theorem groupedIds_eq_flatMap : r.groupedIds = r.nodes.flatMap r.setIds := by
  rw [groupedIds, Table.values_eq_map_keys _ [], List.flatMap_def]
  rfl

theorem lookup_artifactSets (ids : List ArtifactSetId) {id : ArtifactSetId} (h : id ∈ ids) :
    (ids.map fun id => (id, r.artifactSet id)).lookup id = some (r.artifactSet id) := by
  induction ids with
  | nil => cases h
  | cons first ids ih =>
    rw [List.map_cons, List.lookup_cons]
    cases hid : id == first with
    | true => rw [eq_of_beq hid]
    | false =>
      rcases List.mem_cons.1 h with rfl | h
      · simp at hid
      · exact ih h

/-- The selections that are kept while a selection is put together. -/
def selectionCache : SelectionCache :=
  .ofEntries (·.select s filter selector) (r.groupedIds.map fun id => (id, r.artifactSet id))

theorem get?_selectionCache_of_mem {id : ArtifactSetId} (h : id ∈ r.groupedIds) :
    (r.selectionCache s filter selector).get? id =
      some ((r.artifactSet id).select s filter selector) := by
  rw [selectionCache, SelectionCache.get?_ofEntries, lookup_artifactSets r _ h, Option.map_some]

theorem selected_of_mem {id : ArtifactSetId} (h : id ∈ r.groupedIds) :
    SelectionCache.selected (.ofEntries (·.select s filter selector)
      (r.groupedIds.map fun id => (id, r.artifactSet id))) id =
      (r.artifactSet id).select s filter selector :=
  congrArg (·.getD ∅) (r.get?_selectionCache_of_mem s filter selector h)

@[simp] theorem nodes_select : (r.select s filter selector).nodes = r.nodes :=
  Table.keys_map _ _

theorem artifactsFor_select (node : NodeId) :
    (r.select s filter selector).artifactsFor node =
      .compose ((r.setIds node).map fun id => (r.artifactSet id).select s filter selector) := by
  rw [ArtifactSelection.artifactsFor, select, Table.get?_map, setIds]
  cases hget : r.groups.get? node with
  | none => rfl
  | some ids =>
    have hgrouped : ∀ id ∈ ids, id ∈ r.groupedIds := by
      intro id hid
      have hmem : (node, ids) ∈ r.groups.toList := Table.get?_eq_some_iff.1 hget
      exact List.mem_flatten.2 ⟨ids, List.mem_map_of_mem hmem, hid⟩
    rw [Option.map_some, Option.getD_some, Option.getD_some]
    apply congrArg ResolvedSet.compose
    apply List.map_congr_left
    intro id hid
    exact selected_of_mem r s filter selector (hgrouped id hid)

theorem toList_artifactsFor (node : NodeId) :
    ((r.select s filter selector).artifactsFor node).toList =
      (r.setIds node).flatMap fun id => ((r.artifactSet id).select s filter selector).toList := by
  rw [artifactsFor_select, ResolvedSet.toList_compose, List.flatMap_map]

theorem toList_artifacts : (r.select s filter selector).artifacts.toList =
    r.nodes.flatMap fun node => ((r.select s filter selector).artifactsFor node).toList := by
  rw [← nodes_select r s filter selector]
  exact ResolvedSet.toList_compose_values _

theorem toList_buildDependencies : (r.select s filter selector).buildDependencies.toList =
    (r.groupedIds.filter r.isBuildable).eraseDups.flatMap fun id =>
      ((r.artifactSet id).select s filter selector).toList := by
  rw [select, ResolvedSet.toList_compose, OrderedSet.toList_ofList, List.flatMap_map]
  apply List.flatMap_congr
  intro id hid
  have hgrouped := (List.mem_filter.1 (List.mem_eraseDups.1 hid)).1
  rw [selected_of_mem r s filter selector hgrouped]

theorem select_congr {r r' : ArtifactResults} {s s' : VariantStore} {filter : ComponentFilter}
    {selector : VariantSelector} (hgroups : r.groups = r'.groups)
    (hbuildable : r.buildable = r'.buildable)
    (h : ∀ id, (r.artifactSet id).select s filter selector =
      (r'.artifactSet id).select s' filter selector) :
    r.select s filter selector = r'.select s' filter selector := by
  have hgrouped : r.groupedIds = r'.groupedIds := by rw [groupedIds, groupedIds, hgroups]
  have hmarked : r.isBuildable = r'.isBuildable := by
    funext id
    rw [isBuildable, isBuildable, hbuildable]
  have hcache : SelectionCache.ofEntries (·.select s filter selector)
      (r.groupedIds.map fun id => (id, r.artifactSet id)) =
      SelectionCache.ofEntries (·.select s' filter selector)
        (r'.groupedIds.map fun id => (id, r'.artifactSet id)) := by
    apply SelectionCache.ofEntries_congr
    rw [List.map_map, List.map_map, hgrouped]
    apply List.map_congr_left
    intro id _
    exact congrArg (Prod.mk id) (h id)
  rw [select, select, hcache, hgroups, hgrouped, hmarked]

theorem select_eq_of_isSnapshot {r : ArtifactResults} (h : ∀ id, (r.artifactSet id).isSnapshot)
    (s s' : VariantStore) (filter : ComponentFilter) (selector : VariantSelector) :
    r.select s filter selector = r.select s' filter selector :=
  select_congr rfl rfl fun id =>
    (r.artifactSet id).select_eq_of_isSnapshot (h id) s s' filter selector

end ArtifactResults

namespace FileResults
variable (r : FileResults) (s : VariantStore) (filter : ComponentFilter)
  (selector : VariantSelector)

def sets (node : NodeId) : List ArtifactSet := (r.byNode.get? node).getD []

def setIds (node : NodeId) : List ArtifactSetId := (r.sets node).filterMap ArtifactSet.id?

/-- The set that is selected in the place of all sets of an identity: the first of them. -/
def representative (set : ArtifactSet) : ArtifactSet :=
  (set.id?.bind fun id => r.entries.lookup id).getD ∅

theorem selected_eq_representative (set : ArtifactSet) :
    set.id?.elim ∅ (SelectionCache.selected (.ofEntries (·.select s filter selector) r.entries)) =
      (r.representative set).select s filter selector := by
  rw [representative]
  cases set.id? with
  | none => rfl
  | some id =>
    rw [Option.elim_some, SelectionCache.selected, SelectionCache.get?_ofEntries,
      Option.bind_some]
    cases r.entries.lookup id <;> rfl

theorem toList_artifactsFor (node : NodeId) :
    ((r.select s filter selector).artifactsFor node).toList =
      (r.sets node).flatMap fun set =>
        ((r.representative set).select s filter selector).toList := by
  simp only [FileSelection.artifactsFor, select, Table.get?_map, sets, selected_eq_representative]
  cases r.byNode.get? node with
  | none => rfl
  | some sets =>
    rw [Option.map_some, Option.getD_some, Option.getD_some, ResolvedSet.toList_compose,
      List.flatMap_map]

theorem toList_firstLevelFor (id : FileDependencyId) :
    ((r.select s filter selector).firstLevelFor id).toList =
      (r.firstLevel.get? id).toList.flatMap fun set =>
        ((r.representative set).select s filter selector).toList := by
  simp only [FileSelection.firstLevelFor, select, Table.get?_map, selected_eq_representative]
  cases r.firstLevel.get? id <;> simp

theorem toList_artifacts : (r.select s filter selector).artifacts.toList =
    r.nodes.flatMap fun node => ((r.select s filter selector).artifactsFor node).toList := by
  have hnodes : (r.select s filter selector).byNode.keys = r.nodes := Table.keys_map _ _
  rw [← hnodes]
  exact ResolvedSet.toList_compose_values _

theorem mem_entries_of_mem_sets {r : FileResults} {node : NodeId} {set : ArtifactSet}
    {id : ArtifactSetId} (hset : set ∈ r.sets node) (hid : set.id? = some id) :
    (id, set) ∈ r.entries := by
  refine List.mem_filterMap.2 ⟨set, List.mem_append_left _ ?_, by rw [hid]; rfl⟩
  rw [sets] at hset
  cases hget : r.byNode.get? node with
  | none =>
    rw [hget] at hset
    cases hset
  | some sets =>
    rw [hget] at hset
    have hvalue : sets ∈ r.byNode.values :=
      List.mem_map_of_mem (Table.get?_eq_some_iff.1 hget)
    exact List.mem_flatten.2 ⟨sets, hvalue, hset⟩

theorem exists_of_mem_entries {r : FileResults} {e : ArtifactSetId × ArtifactSet}
    (h : e ∈ r.entries) : e.2.id? = some e.1 ∧
      ((∃ node, e.2 ∈ r.sets node) ∨ ∃ dependency, r.firstLevel.get? dependency = some e.2) := by
  obtain ⟨set, hset, hentry⟩ := List.mem_filterMap.1 h
  obtain ⟨id, hid, rfl⟩ := Option.map_eq_some_iff.1 hentry
  refine ⟨hid, ?_⟩
  rcases List.mem_append.1 hset with hnode | hdeclared
  · obtain ⟨sets, hsets, hset⟩ := List.mem_flatten.1 hnode
    obtain ⟨entry, hmem, rfl⟩ := List.mem_map.1 hsets
    refine .inl ⟨entry.1, ?_⟩
    rwa [sets, Table.get?_eq_some_iff.2 hmem]
  · obtain ⟨entry, hmem, rfl⟩ := List.mem_map.1 hdeclared
    exact .inr ⟨entry.1, Table.get?_eq_some_iff.2 hmem⟩

theorem select_eq_of_isSnapshot {r : FileResults} (h : ∀ e ∈ r.entries, e.2.isSnapshot)
    (s s' : VariantStore) (filter : ComponentFilter) (selector : VariantSelector) :
    r.select s filter selector = r.select s' filter selector := by
  rw [select, select, SelectionCache.ofEntries_congr]
  apply List.map_congr_left
  intro e he
  exact congrArg (Prod.mk e.1) (e.2.select_eq_of_isSnapshot (h e he) s s' filter selector)

end FileResults

end ArtifactResolution
