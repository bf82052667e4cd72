import ArtifactResolution.Proofs.Selection.Listing
import Mathlib.Algebra.GroupWithZero.Nat
import Mathlib.Data.List.Flatten

namespace ArtifactResolution
set_option autoImplicit false

def SelectionCache.entriesOf (sets : List ArtifactSet) : List (ArtifactSetId × ArtifactSet) :=
  sets.filterMap fun set => set.id?.map (·, set)

namespace SelectionCache
variable (select : ArtifactSet → ResolvedSet) (all : List (ArtifactSetId × ArtifactSet))

/-- Selects a set, unless a selection is kept under its identity; a new one is kept. -/
def take (set : ArtifactSet) : StateM SelectionCache ResolvedSet := do
  match set.id? with
  | none => return ∅
  | some id =>
    match (← get).get? id with
    | some selected => return selected
    | none =>
      modify (·.insert id (select set))
      return select set

/-- Kept is the selection of the first set under each identity among the entries gone through. -/
def Keeps (cache : SelectionCache) (seen : List (ArtifactSetId × ArtifactSet)) : Prop :=
  ∀ id, cache.get? id = (seen.lookup id).map select

/-- What stands for a set if the first of its identity among all entries is selected. -/
def shared (set : ArtifactSet) : ResolvedSet := set.id?.elim ∅ (ofEntries select all).selected

/-- A pass through sets, from any place among all entries at which they come next, comes to a result
and keeps their selections. -/
def Serves {γ : Type} (pass : StateM SelectionCache γ) (sets : List ArtifactSet) (result : γ) :
    Prop :=
  ∀ cache seen, Keeps select cache seen → seen ++ entriesOf sets <+: all →
    ∃ cache', pass.run cache = (result, cache') ∧ Keeps select cache' (seen ++ entriesOf sets)

variable {select all}

theorem run_take_of_no_id {set : ArtifactSet} (hid : set.id? = none) (cache : SelectionCache) :
    (take select set).run cache = (∅, cache) := by
  rw [take, hid]
  rfl

theorem run_take_of_kept {set : ArtifactSet} {id : ArtifactSetId} (hid : set.id? = some id)
    {cache : SelectionCache} {kept : ResolvedSet} (hkept : cache.get? id = some kept) :
    (take select set).run cache = (kept, cache) := by
  rw [take, hid]
  simp only [StateT.run_bind, StateT.run_get, pure_bind, hkept, StateT.run_pure]
  rfl

theorem run_take_of_new {set : ArtifactSet} {id : ArtifactSetId} (hid : set.id? = some id)
    {cache : SelectionCache} (hnew : cache.get? id = none) :
    (take select set).run cache = (select set, cache.insert id (select set)) := by
  rw [take, hid]
  simp only [StateT.run_bind, StateT.run_get, pure_bind, hnew, StateT.run_modify, StateT.run_pure]
  rfl

theorem keeps_empty : Keeps select ∅ [] := fun id => Table.get?_empty id

theorem Keeps.insert {cache : SelectionCache} {seen : List (ArtifactSetId × ArtifactSet)}
    (h : Keeps select cache seen) {id : ArtifactSetId} (hnew : seen.lookup id = none)
    (set : ArtifactSet) : Keeps select (cache.insert id (select set)) (seen ++ [(id, set)]) := by
  intro id'
  rw [List.lookup_append]
  by_cases hid : id = id'
  · subst hid
    simp [hnew]
  · have hne : (id' == id) = false := beq_eq_false_iff_ne.2 (Ne.symm hid)
    rw [Table.get?_insert_of_ne _ _ hid, h id', List.lookup_cons, hne]
    simp

theorem Keeps.known {cache : SelectionCache} {seen : List (ArtifactSetId × ArtifactSet)}
    (h : Keeps select cache seen) {id : ArtifactSetId} {first : ArtifactSet}
    (hseen : seen.lookup id = some first) (set : ArtifactSet) :
    Keeps select cache (seen ++ [(id, set)]) := by
  intro id'
  rw [h id', List.lookup_append, List.lookup_cons]
  cases hid : id' == id with
  | true => rw [eq_of_beq hid, hseen, Option.some_or]
  | false => rw [List.lookup_nil, Option.or_none]

theorem lookup_of_isPrefix {seen : List (ArtifactSetId × ArtifactSet)} {id : ArtifactSetId}
    {first : ArtifactSet} (hstart : seen <+: all) (hseen : seen.lookup id = some first) :
    all.lookup id = some first := by
  obtain ⟨rest, rfl⟩ := hstart
  rw [List.lookup_append, hseen, Option.some_or]

theorem serves_take (set : ArtifactSet) :
    Serves select all (take select set) [set] (shared select all set) := by
  intro cache seen hkeeps hstart
  cases hid : set.id? with
  | none =>
    have hnone : entriesOf [set] = [] := by simp [entriesOf, hid]
    rw [hnone, List.append_nil, run_take_of_no_id hid, shared, hid]
    exact ⟨cache, rfl, hkeeps⟩
  | some id =>
    have hentry : entriesOf [set] = [(id, set)] := by simp [entriesOf, hid]
    have hshared : shared select all set = ((all.lookup id).map select).getD ∅ := by
      rw [shared, hid, Option.elim_some, selected, get?_ofEntries]
    have hcached := hkeeps id
    rw [hentry] at hstart ⊢
    cases hseen : seen.lookup id with
    | some first =>
      have hlookup : all.lookup id = some first :=
        lookup_of_isPrefix ((List.prefix_append seen _).trans hstart) hseen
      rw [hseen, Option.map_some] at hcached
      rw [run_take_of_kept hid hcached, hshared, hlookup]
      exact ⟨cache, rfl, hkeeps.known hseen set⟩
    | none =>
      have hlookup : all.lookup id = some set := by
        apply lookup_of_isPrefix hstart
        rw [List.lookup_append, hseen, Option.none_or, List.lookup_cons_self]
      rw [hseen, Option.map_none] at hcached
      rw [run_take_of_new hid hcached, hshared, hlookup]
      exact ⟨_, rfl, hkeeps.insert hseen set⟩

theorem serves_pure {γ : Type} (result : γ) : Serves select all (pure result) [] result := by
  intro cache seen hkeeps _
  refine ⟨cache, rfl, ?_⟩
  rwa [entriesOf, List.filterMap_nil, List.append_nil]

theorem Serves.bind {γ δ : Type} {pass : StateM SelectionCache γ} {sets sets' : List ArtifactSet}
    {result : γ} {next : γ → StateM SelectionCache δ} {result' : δ}
    (h : Serves select all pass sets result)
    (hnext : Serves select all (next result) sets' result') :
    Serves select all (pass >>= next) (sets ++ sets') result' := by
  intro cache seen hkeeps hstart
  rw [entriesOf, List.filterMap_append, ← entriesOf, ← entriesOf, ← List.append_assoc] at hstart ⊢
  obtain ⟨cache₁, hrun, hkeeps₁⟩ := h cache seen hkeeps ((List.prefix_append _ _).trans hstart)
  obtain ⟨cache₂, hrun', hkeeps₂⟩ := hnext cache₁ _ hkeeps₁ hstart
  refine ⟨cache₂, ?_, hkeeps₂⟩
  rw [StateT.run_bind, hrun]
  exact hrun'

theorem Serves.return {γ δ : Type} {pass : StateM SelectionCache γ} {sets : List ArtifactSet}
    {result : γ} (h : Serves select all pass sets result) (f : γ → δ) :
    Serves select all (do return f (← pass)) sets (f result) := by
  rw [← List.append_nil sets]
  exact h.bind (serves_pure (f result))

theorem serves_mapM {β γ : Type} {pass : β → StateM SelectionCache γ}
    {setsOf : β → List ArtifactSet} {result : β → γ}
    (h : ∀ b, Serves select all (pass b) (setsOf b) (result b)) (bs : List β) :
    Serves select all (bs.mapM pass) (bs.flatMap setsOf) (bs.map result) := by
  induction bs with
  | nil => exact serves_pure []
  | cons b bs ih =>
    rw [List.mapM_cons, List.flatMap_cons, List.map_cons]
    exact (h b).bind (ih.return (result b :: ·))

end SelectionCache

namespace FileResults
variable {r : FileResults} (s : VariantStore) (filter : ComponentFilter)
  (selector : VariantSelector)

/-- Selects the sets of one node after the other and then those of the root's declarations, and
keeps each selection as soon as it has been made. -/
def selectInPass (r : FileResults) : StateM SelectionCache
    (List (NodeId × ResolvedSet) × List (FileDependencyId × ResolvedSet)) := do
  let take := SelectionCache.take (·.select s filter selector)
  let byNode ← r.byNode.toList.mapM fun e => do
    return (e.1, ResolvedSet.compose (← e.2.mapM take))
  let firstLevel ← r.firstLevel.toList.mapM fun e => do
    return (e.1, ← take e.2)
  return (byNode, firstLevel)

/-- Sets of one identity are the same set wherever they stand. -/
def OneSetEach (r : FileResults) : Prop :=
  ∀ e ∈ r.entries, ∀ e' ∈ r.entries, e.1 = e'.1 → e.2 = e'.2

/-- It makes no difference whether selections are kept beforehand or on the way. -/
theorem run_selectInPass (r : FileResults) :
    let selection := r.select s filter selector
    ((r.selectInPass s filter selector).run ∅).1 =
      (selection.byNode.toList, selection.firstLevel.toList) := by
  intro selection
  let shared := SelectionCache.shared (·.select s filter selector) r.entries
  have hset (set : ArtifactSet) : SelectionCache.Serves (·.select s filter selector) r.entries
      (SelectionCache.take (·.select s filter selector) set) [set] (shared set) :=
    SelectionCache.serves_take set
  have hnode (e : NodeId × List ArtifactSet) :=
    (SelectionCache.serves_mapM hset e.2).return fun taken => (e.1, ResolvedSet.compose taken)
  have hdeclared (e : FileDependencyId × ArtifactSet) :=
    (hset e.2).return fun taken => (e.1, taken)
  let sets := (r.byNode.toList.flatMap fun e => e.2.flatMap ([·])) ++
    r.firstLevel.toList.flatMap fun e => [e.2]
  have hentries : SelectionCache.entriesOf sets = r.entries := by
    simp only [sets, List.flatMap_singleton', ← List.map_eq_flatMap]
    rfl
  have hpass : SelectionCache.Serves (·.select s filter selector) r.entries
      (r.selectInPass s filter selector) sets
      (r.byNode.toList.map fun e => (e.1, ResolvedSet.compose (e.2.map shared)),
        r.firstLevel.toList.map fun e => (e.1, shared e.2)) :=
    (SelectionCache.serves_mapM hnode r.byNode.toList).bind
      ((SelectionCache.serves_mapM hdeclared r.firstLevel.toList).return (Prod.mk _))
  obtain ⟨cache, hrun, _⟩ := hpass ∅ [] SelectionCache.keeps_empty (hentries ▸ List.prefix_refl _)
  simp only [hrun, selection, select, Table.toList_map]
  rfl

theorem mem_entries_of_firstLevel {dependency : FileDependencyId} {set : ArtifactSet}
    {id : ArtifactSetId} (hset : r.firstLevel.get? dependency = some set)
    (hid : set.id? = some id) : (id, set) ∈ r.entries := by
  have hvalue : set ∈ r.firstLevel.values := List.mem_map_of_mem (Table.get?_eq_some_iff.1 hset)
  refine List.mem_filterMap.2 ⟨set, List.mem_append_right _ hvalue, ?_⟩
  rw [hid, Option.map_some]

theorem OneSetEach.representative_eq (h : r.OneSetEach) {set : ArtifactSet}
    (hentry : ∀ id, set.id? = some id → (id, set) ∈ r.entries) : r.representative set = set := by
  rw [representative]
  cases hid : set.id? with
  | none =>
    cases set with
    | empty => rfl
    | component => cases hid
    | files => cases hid
    | composite => cases hid
  | some id =>
    obtain ⟨first, hfirst⟩ := exists_lookup_of_mem (hentry id hid)
    rw [Option.bind_some, hfirst, Option.getD_some]
    exact h _ (mem_of_lookup hfirst) _ (hentry id hid) rfl

theorem OneSetEach.representative_of_mem_sets (h : r.OneSetEach) {node : NodeId}
    {set : ArtifactSet} (hset : set ∈ r.sets node) : r.representative set = set :=
  h.representative_eq fun _ hid => mem_entries_of_mem_sets hset hid

theorem OneSetEach.representative_of_firstLevel (h : r.OneSetEach) {id : FileDependencyId}
    {set : ArtifactSet} (hset : r.firstLevel.get? id = some set) : r.representative set = set :=
  h.representative_eq fun _ hid => mem_entries_of_firstLevel hset hid

theorem OneSetEach.toList_artifactsFor (h : r.OneSetEach) (node : NodeId) :
    ((r.select s filter selector).artifactsFor node).toList =
      (r.sets node).flatMap fun set => (set.select s filter selector).toList := by
  rw [FileResults.toList_artifactsFor]
  apply List.flatMap_congr
  intro set hset
  rw [h.representative_of_mem_sets hset]

theorem OneSetEach.toList_firstLevel (h : r.OneSetEach) :
    (r.select s filter selector).firstLevel.toList =
      r.firstLevel.toList.map fun e => (e.1, e.2.select s filter selector) := by
  rw [select, Table.toList_map]
  apply List.map_congr_left
  intro e he
  have hset := h.representative_of_firstLevel (Table.get?_eq_some_iff.2 he)
  simp only [selected_eq_representative, hset]

theorem artifactsFor_of_notMem {node : NodeId} (h : node ∉ r.nodes) :
    (r.select s filter selector).artifactsFor node = ∅ := by
  rw [FileSelection.artifactsFor, select, Table.get?_map, Table.get?_eq_none_iff.2 h]
  rfl

theorem firstLevelFor_of_notMem {id : FileDependencyId} (h : id ∉ r.firstLevelIds) :
    (r.select s filter selector).firstLevelFor id = ∅ := by
  rw [FileSelection.firstLevelFor, select, Table.get?_map, Table.get?_eq_none_iff.2 h]
  rfl

theorem count_flatMap_of_le_one {id : ArtifactSetId} {idsOf : NodeId → List ArtifactSetId}
    (h : ∀ node, (idsOf node).count id ≤ 1) (nodes : List NodeId) :
    (nodes.flatMap idsOf).count id = nodes.countP fun node => id ∈ idsOf node := by
  induction nodes with
  | nil => rfl
  | cons node nodes ih =>
    rw [List.flatMap_cons, List.count_append, List.countP_cons, ih, Nat.add_comm]
    by_cases hmem : id ∈ idsOf node
    · have hone : (idsOf node).count id = 1 :=
        Nat.le_antisymm (h node) (List.one_le_count_iff.2 hmem)
      simp [hmem, hone]
    · simp [hmem, List.count_eq_zero.2 hmem]

/-- If sets of one identity are the same set, a selection from collected files lists what each set
gives by itself: of a node, set by set; of a declaration of the root, its set; altogether, node by
node, so that a set occurs as often as nodes have it. The declarations keep their order, and nothing
is taken of unknown nodes and declarations. A pass that keeps selections on the way comes to the
same. -/
theorem select_eq_each {r : FileResults} (h : r.OneSetEach) (s : VariantStore)
    (filter : ComponentFilter) (selector : VariantSelector) :
    let selection := r.select s filter selector
    let taken (set : ArtifactSet) := set.select s filter selector
    ((r.selectInPass s filter selector).run ∅).1 =
      (selection.byNode.toList, selection.firstLevel.toList) ∧
    (∀ node, (selection.artifactsFor node).toList =
      (r.sets node).flatMap fun set => (taken set).toList) ∧
    selection.firstLevel.toList = r.firstLevel.toList.map (fun e => (e.1, taken e.2)) ∧
    (∀ id set, r.firstLevel.get? id = some set → selection.firstLevelFor id = taken set) ∧
    selection.artifacts.toList =
      r.nodes.flatMap (fun node => (selection.artifactsFor node).toList) ∧
    selection.artifacts.toList =
      (r.nodes.flatMap r.sets).flatMap (fun set => (taken set).toList) ∧
    (∀ id, (∀ node, (r.setIds node).count id ≤ 1) →
      (r.nodes.flatMap r.setIds).count id = r.nodes.countP fun node => id ∈ r.setIds node) ∧
    (∀ node, node ∉ r.nodes → selection.artifactsFor node = ∅) ∧
    (∀ id, id ∉ r.firstLevelIds → selection.firstLevelFor id = ∅) := by
  intro selection taken
  have hfor := h.toList_artifactsFor s filter selector
  have hall := r.toList_artifacts s filter selector
  refine ⟨run_selectInPass s filter selector r, hfor, h.toList_firstLevel s filter selector, ?_,
    hall, ?_, ?_, fun node => artifactsFor_of_notMem s filter selector,
    fun id => firstLevelFor_of_notMem s filter selector⟩
  · intro id set hset
    have hmem : (id, taken set) ∈ selection.firstLevel.toList := by
      rw [h.toList_firstLevel s filter selector]
      exact List.mem_map.2 ⟨(id, set), Table.get?_eq_some_iff.1 hset, rfl⟩
    rw [FileSelection.firstLevelFor, Table.get?_eq_some_iff.2 hmem, Option.getD_some]
  · rw [hall, List.flatMap_assoc]
    exact List.flatMap_congr fun node _ => hfor node
  · exact fun id hone => count_flatMap_of_le_one hone r.nodes

/-- Nodes 1 and 2 and the root's declaration 7 have the set 10 in common; node 3 has nothing. -/
def sharedFiles : FileResults :=
  let tools : ArtifactSet := .files ⟨10⟩ ⟨7⟩ none [⟨"gen.jar"⟩, ⟨"lint.jar"⟩]
  let docs : ArtifactSet := .files ⟨20⟩ ⟨8⟩ (some (.module "org.example" "docs" "1")) [⟨"api.zip"⟩]
  { byNode := .ofList [(⟨1⟩, [docs, .empty, tools]), (⟨2⟩, [tools]), (⟨3⟩, [])]
    firstLevel := .ofList [(⟨7⟩, tools), (⟨8⟩, docs)] }

theorem select_eq_each_sharedFiles :
    let selection := sharedFiles.select ∅ .acceptAll .first
    (sharedFiles.OneSetEach ∧ ⟨9⟩ ∉ sharedFiles.nodes) ∧
    selection.artifacts.toList.map (·.file.text) =
      ["api.zip", "gen.jar", "lint.jar", "gen.jar", "lint.jar"] ∧
    (selection.firstLevelFor ⟨7⟩).toList.map (·.file.text) = ["gen.jar", "lint.jar"] ∧
    selection.artifactsFor ⟨9⟩ = ∅ := by
  intro selection
  have hfirst : sharedFiles.entries.Forall fun e => sharedFiles.entries.lookup e.1 = some e.2 :=
    ⟨rfl, rfl, rfl, rfl, rfl⟩
  have hone : sharedFiles.OneSetEach :=
    eq_of_key_eq_of_lookup (List.forall_iff_forall_mem.1 hfirst)
  obtain ⟨_, _, _, hdeclared, _, hall, _, hunknown, _⟩ :=
    select_eq_each hone ∅ .acceptAll .first
  refine ⟨⟨hone, by decide⟩, ?_, ?_, hunknown ⟨9⟩ (by decide)⟩
  · rw [hall]
    rfl
  · rw [hdeclared ⟨7⟩ _ rfl]
    rfl

end FileResults

end ArtifactResolution
