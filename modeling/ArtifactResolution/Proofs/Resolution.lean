import ArtifactResolution.Proofs.ArtifactCollector.Collected
import ArtifactResolution.Proofs.FileCollector
import ArtifactResolution.Proofs.LiveVariants

namespace ArtifactResolution
set_option autoImplicit false

/-- The collectors of a resolution and the lists that the sets in them refer to. What a collector
holds depends only on its own callbacks and the lists depend only on the updates; the two meet when
a collection is completed. -/
structure Resolution where
  artifacts : ArtifactCollector
  files : FileCollector
  store : VariantStore

namespace Resolution

inductive Event where
  | artifacts (callback : Callback)
  | files (callback : Callback)
  | update (u : VariantUpdate)

namespace Event

def artifactCallback? : Event → Option Callback
  | artifacts callback => some callback
  | files _ => none
  | update _ => none

def fileCallback? : Event → Option Callback
  | artifacts _ => none
  | files callback => some callback
  | update _ => none

def update? : Event → Option VariantUpdate
  | artifacts _ => none
  | files _ => none
  | update u => some u

end Event

def artifactCallbacks (events : List Event) : List Callback :=
  events.filterMap Event.artifactCallback?

def fileCallbacks (events : List Event) : List Callback := events.filterMap Event.fileCallback?

def updates (events : List Event) : List VariantUpdate := events.filterMap Event.update?

def step (r : Resolution) : Event → Resolution
  | .artifacts callback => { r with artifacts := (Visitor.receive r.artifacts callback).1 }
  | .files callback => { r with files := (Visitor.receive r.files callback).1 }
  | .update u => { r with store := r.store.update u }

def run (r : Resolution) (events : List Event) : Resolution := events.foldl step r

theorem run_append (r : Resolution) (events later : List Event) :
    r.run (events ++ later) = (r.run events).run later :=
  List.foldl_append

theorem run_eq (r : Resolution) (events : List Event) :
    r.run events =
      { artifacts := (Visitor.run r.artifacts (artifactCallbacks events)).1
        files := (Visitor.run r.files (fileCallbacks events)).1
        store := r.store.updateAll (updates events) } := by
  induction events generalizing r with
  | nil => rfl
  | cons event events ih =>
    cases event with
    | artifacts callback => exact ih (r.step (.artifacts callback))
    | files callback => exact ih (r.step (.files callback))
    | update u => exact ih (r.step (.update u))

end Resolution

open Callback ArtifactSet

section Freeze
variable {s : VariantStore} {set : ArtifactSet}

theorem ArtifactCollector.isSnapshot_of_mem_complete {c : ArtifactCollector}
    (h : set ∈ (c.complete s).sets.values) : set.isSnapshot := by
  obtain ⟨_, live, rfl⟩ := Table.exists_of_mem_values_map h
  exact isSnapshot_snapshot s live

theorem ArtifactCollector.Collected.frozenAt {c : ArtifactCollector} {done : List Callback}
    (hc : c.Collected done) (s : VariantStore) (id : ArtifactSetId) :
    FrozenAt s ((lastSet? done id).getD ∅) ((c.complete s).artifactSet id) := by
  rw [hc.artifactSet_eq]
  cases lastSet? done id with
  | none => exact frozenAt_snapshot s ∅
  | some live => exact frozenAt_snapshot s live

theorem FileCollector.isSnapshot_of_mem_complete {c : FileCollector}
    (h : set ∈ (c.complete s).byNode.values.flatten ++ (c.complete s).firstLevel.values) :
    set.isSnapshot := by
  rcases List.mem_append.1 h with h | h
  · obtain ⟨sets, hsets, hset⟩ := List.mem_flatten.1 h
    obtain ⟨_, lives, rfl⟩ := Table.exists_of_mem_values_map hsets
    obtain ⟨live, _, rfl⟩ := List.mem_map.1 hset
    exact isSnapshot_snapshot s live
  · obtain ⟨_, live, rfl⟩ := Table.exists_of_mem_values_map h
    exact isSnapshot_snapshot s live

theorem FileCollector.isSnapshot_of_mem_entries {c : FileCollector}
    {e : ArtifactSetId × ArtifactSet} (h : e ∈ (c.complete s).entries) : e.2.isSnapshot := by
  obtain ⟨set, hset, hid⟩ := List.mem_filterMap.1 h
  obtain ⟨id, _, rfl⟩ := Option.map_eq_some_iff.1 hid
  exact isSnapshot_of_mem_complete hset

variable {c : FileCollector} {visits : List FileVisit}
  {declared : List (FileDependencyId × ArtifactSet)}

theorem FileCollector.Collected.frozenAt_sets (hc : c.Collected visits declared)
    (s : VariantStore) (node : NodeId) :
    List.Forall₂ (FrozenAt s) (Table.latest (FileVisit.setsOf node visits))
      ((c.complete s).sets node) := by
  rw [hc.sets_complete, List.forall₂_map_right_iff, List.forall₂_same]
  intro live _
  exact frozenAt_snapshot s live

theorem FileCollector.Collected.frozenAt_firstLevel (hc : c.Collected visits declared)
    (s : VariantStore) (id : FileDependencyId) :
    Option.Rel (FrozenAt s) (declared.reverse.lookup id) ((c.complete s).firstLevel.get? id) := by
  rw [hc.get?_firstLevel]
  cases declared.reverse.lookup id with
  | none => exact .none
  | some live => exact .some (frozenAt_snapshot s live)

end Freeze

namespace Resolution

theorem collected_artifacts (buildProjects : Bool) (order : SortOrder) (s : VariantStore)
    (events : List Event) :
    let collector : ArtifactCollector := { buildProjects, order }
    (run ⟨collector, {}, s⟩ events).artifacts.Collected
      (Visitor.accepted collector (artifactCallbacks events)) := by
  intro collector
  rw [run_eq]
  exact ArtifactCollector.Collected.run buildProjects order (artifactCallbacks events)

theorem collected_files (collector : ArtifactCollector) (s : VariantStore) (events : List Event) :
    (run ⟨collector, {}, s⟩ events).files.Collected (fileVisits (fileCallbacks events))
      (declarations none (fileCallbacks events)) := by
  rw [run_eq]
  exact FileCollector.collected_run (fileCallbacks events)

/-- Results are frozen when their collections are completed. Until then every list follows the
updates made through its handle; under each identity the results hold a copy of the set delivered
last, with the variants that the handles name at that moment, and nothing that happens later changes
what is selected from them. -/
theorem complete_frozen (buildProjects : Bool) (order : SortOrder) (s : VariantStore)
    (earlier more later : List Event) (filter : ComponentFilter) (selector : VariantSelector) :
    let collector : ArtifactCollector := { buildProjects, order }
    let before := run ⟨collector, {}, s⟩ earlier
    let now := before.run more
    let after := now.run later
    let told := Visitor.accepted collector (artifactCallbacks (earlier ++ more))
    let toldFiles := fileCallbacks (earlier ++ more)
    let results := now.artifacts.complete now.store
    let files := now.files.complete now.store
    (∀ handle, before.store.Knows handle → now.store.read handle =
      (updates more).foldl (VariantUpdate.effect handle) (before.store.read handle)) ∧
    (∀ id, FrozenAt now.store ((lastSet? told id).getD ∅) (results.artifactSet id)) ∧
    (∀ id key owner handle, lastSet? told id = some (.component key owner (.live handle)) →
      results.artifactSet id = .component key owner (.frozen (now.store.read handle)) ∧
      (results.artifactSet id).select after.store filter selector =
        selectComponent owner (now.store.read handle) filter selector) ∧
    (∀ set ∈ results.sets.values, set.isSnapshot) ∧
    results.select after.store filter selector = results.select now.store filter selector ∧
    (∀ node, ((results.select after.store filter selector).artifactsFor node).toList =
      (idsFor node told).eraseDups.flatMap fun id =>
        (((lastSet? told id).getD ∅).select now.store filter selector).toList) ∧
    (∀ node, List.Forall₂ (FrozenAt now.store)
      (Table.latest (FileVisit.setsOf node (fileVisits toldFiles))) (files.sets node)) ∧
    (∀ id, Option.Rel (FrozenAt now.store) ((declarations none toldFiles).reverse.lookup id)
      (files.firstLevel.get? id)) ∧
    (∀ set ∈ files.byNode.values.flatten ++ files.firstLevel.values, set.isSnapshot) ∧
    files.select after.store filter selector = files.select now.store filter selector := by
  intro collector before now after told toldFiles results files
  have hnow : now = run ⟨collector, {}, s⟩ (earlier ++ more) := (run_append _ earlier more).symm
  have hartifacts : now.artifacts.Collected told := by
    rw [hnow]
    exact collected_artifacts buildProjects order s (earlier ++ more)
  have hfiles : now.files.Collected (fileVisits toldFiles) (declarations none toldFiles) := by
    rw [hnow]
    exact collected_files collector s (earlier ++ more)
  have hstore : now.store = before.store.updateAll (updates more) := by
    show (before.run more).store = _
    rw [run_eq]
  have hfrozen : ∀ id, FrozenAt now.store ((lastSet? told id).getD ∅) (results.artifactSet id) :=
    hartifacts.frozenAt now.store
  have hentries : ∀ e ∈ files.entries, e.2.isSnapshot :=
    fun _ => FileCollector.isSnapshot_of_mem_entries
  -- Snapshots select the same from every store, so the later events drop out.
  refine ⟨?_, hfrozen, ?_, ?_, ?_, ?_, ?_, ?_, ?_, ?_⟩
  · intro handle hknows
    rw [hstore]
    exact hknows.read_updateAll (updates more)
  · intro id key owner handle hlast
    have hcopied := (hfrozen id).copied
    rw [hlast] at hcopied
    rw [hcopied.unique (.live key owner handle)]
    exact ⟨rfl, rfl⟩
  · exact fun set => ArtifactCollector.isSnapshot_of_mem_complete
  · exact ArtifactResults.select_eq_of_isSnapshot (fun id => (hfrozen id).isSnapshot) _ _ _ _
  · intro node
    rw [ArtifactResults.toList_artifactsFor, hartifacts.setIds_eq]
    apply List.flatMap_congr
    intro id _
    rw [(hfrozen id).select_eq]
  · exact hfiles.frozenAt_sets now.store
  · exact hfiles.frozenAt_firstLevel now.store
  · exact fun set => FileCollector.isSnapshot_of_mem_complete
  · exact FileResults.select_eq_of_isSnapshot hentries _ _ _ _

def jar (name : String) : Variant := { name, artifacts := [⟨name, ⟨name⟩⟩] }

def lib (source : VariantSource) : ArtifactSet :=
  .component ⟨10⟩ (.module "org.example" "lib" "1.0") source

/-- The variants of the library again, two composites deep, beside those of another component. -/
def bundle (source : VariantSource) : ArtifactSet :=
  .composite ⟨20⟩ [.component ⟨11⟩ (.module "org.example" "app" "1.0") (.frozen [jar "app.jar"]),
    .composite ⟨21⟩ [lib source, .empty]]

theorem copied_bundle (s : VariantStore) :
    Copied s (bundle (.live ⟨0⟩)) (bundle (.frozen (s.read ⟨0⟩))) :=
  .composite _ (.cons (.frozen ..)
    (.cons (.composite _ (.cons (.live ..) (.cons .empty .nil))) .nil))

/-- One list is shared by a component set and a nested composite. It is replaced and extended
between the visits and the completion, and emptied later. -/
theorem complete_frozen_shared :
    let node (id : UInt64) : Node :=
      ⟨⟨id⟩, .module "org.example" "lib" "1.0", ⟨"default", .localProject⟩, #[]⟩
    let declared : FileDependency := { id := ⟨1⟩, displayName := "files", files := [] }
    let earlier : List Event :=
      [.artifacts (.visitNode (node 1) (node 2) (lib (.live ⟨0⟩))),
        .files (.visitFile (node 2) declared (bundle (.live ⟨0⟩))),
        .artifacts (.visitNode (node 1) (node 3) (bundle (.live ⟨0⟩)))]
    let more : List Event :=
      [.update (.replace ⟨0⟩ [jar "b.jar"]), .update (.push ⟨0⟩ (jar "c.jar"))]
    let before := run ⟨{ buildProjects := true, order := .default }, {}, ⟨#[[jar "a.jar"]]⟩⟩ earlier
    let now := before.run more
    let after := now.run [.update (.replace ⟨0⟩ [])]
    let results := now.artifacts.complete now.store
    let files := now.files.complete now.store
    let selection := results.select after.store .acceptAll .first
    before.store.Knows ⟨0⟩ ∧
    now.store.read ⟨0⟩ = [jar "b.jar", jar "c.jar"] ∧
    after.store.read ⟨0⟩ = [] ∧
    results.artifactSet ⟨10⟩ = lib (.frozen [jar "b.jar", jar "c.jar"]) ∧
    results.artifactSet ⟨20⟩ = bundle (.frozen [jar "b.jar", jar "c.jar"]) ∧
    files.sets ⟨2⟩ = [bundle (.frozen [jar "b.jar", jar "c.jar"])] ∧
    (selection.artifactsFor ⟨2⟩).toList.map ResolvedArtifact.name = ["b.jar"] ∧
    selection = results.select now.store .acceptAll .first := by
  intro node declared earlier more before now after results files selection
  obtain ⟨hread, hfrozen, hlive, _, hselect, hfor, hfiles, _⟩ := complete_frozen true .default
    ⟨#[[jar "a.jar"]]⟩ earlier more [.update (.replace ⟨0⟩ [])] .acceptAll .first
  have hknows : before.store.Knows ⟨0⟩ := Nat.one_pos
  have hnow : now.store.read ⟨0⟩ = [jar "b.jar", jar "c.jar"] := hread ⟨0⟩ hknows
  let told : List Callback :=
    Visitor.accepted ({ buildProjects := true, order := .default } : ArtifactCollector)
      (artifactCallbacks (earlier ++ more))
  have hids : (idsFor ⟨2⟩ told).eraseDups = [⟨10⟩] := by rfl
  have hlast : lastSet? told ⟨10⟩ = some (lib (.live ⟨0⟩)) := by rfl
  have hlastBundle : lastSet? told ⟨20⟩ = some (bundle (.live ⟨0⟩)) := by rfl
  have hlib : results.artifactSet ⟨10⟩ = lib (.frozen (now.store.read ⟨0⟩)) :=
    (hlive _ _ _ _ hlast).1
  have hbundle : results.artifactSet ⟨20⟩ = bundle (.frozen (now.store.read ⟨0⟩)) := by
    have hcopied := (hfrozen ⟨20⟩).copied
    rw [hlastBundle] at hcopied
    exact hcopied.unique (copied_bundle now.store)
  have hsets : files.sets ⟨2⟩ = [bundle (.frozen (now.store.read ⟨0⟩))] := by
    obtain ⟨copy, rest, hcopy, hrest, hsets⟩ := List.forall₂_cons_left_iff.1 (hfiles ⟨2⟩)
    rw [List.forall₂_nil_left_iff.1 hrest, hcopy.copied.unique (copied_bundle now.store)] at hsets
    exact hsets
  have htaken : (selection.artifactsFor ⟨2⟩).toList =
      (selectComponent (.module "org.example" "lib" "1.0") (now.store.read ⟨0⟩) .acceptAll
        .first).toList := by
    rw [hfor, hids, List.flatMap_singleton, hlast]
    rfl
  rw [hnow] at hlib hbundle hsets htaken
  refine ⟨hknows, hnow, rfl, hlib, hbundle, hsets, ?_, hselect⟩
  rw [htaken]
  rfl

end Resolution

end ArtifactResolution
