import ArtifactResolution.Proofs.ArtifactCollector.Collected
import ArtifactResolution.Proofs.ArtifactSet.Leaves
import ArtifactResolution.Proofs.Selection.Listing

namespace ArtifactResolution
set_option autoImplicit false

/-- Two sets of one identity that hold the same leaves. -/
structure ArtifactSet.Regrouped (set set' : ArtifactSet) : Prop where
  id_eq : set.id? = set'.id?
  leaves_eq : set.leaves = set'.leaves

def ArtifactSet.registerIn (set : ArtifactSet) (sets : Table ArtifactSetId ArtifactSet) :
    Table ArtifactSetId ArtifactSet :=
  set.id?.elim sets fun id => sets.insert id set

namespace Callback

/-- Two callbacks that differ at most in how a delivered set groups its leaves. -/
inductive Regrouped : Callback → Callback → Prop
  | start (graph : Graph) (root : NodeId) : Regrouped (start graph root) (start graph root)
  | visitNode (source target : Node) {set set' : ArtifactSet} (h : set.Regrouped set') :
    Regrouped (visitNode source target set) (visitNode source target set')
  | visitFile (source : Node) (dependency : FileDependency) {set set' : ArtifactSet}
    (h : set.Regrouped set') :
    Regrouped (visitFile source dependency set) (visitFile source dependency set')
  | finish : Regrouped finish finish

theorem Regrouped.refl (callback : Callback) : callback.Regrouped callback := by
  cases callback with
  | start graph root => exact .start graph root
  | visitNode source target set => exact .visitNode source target ⟨rfl, rfl⟩
  | visitFile source dependency set => exact .visitFile source dependency ⟨rfl, rfl⟩
  | finish => exact .finish

def registerIn (callback : Callback) (sets : Table ArtifactSetId ArtifactSet) :
    Table ArtifactSetId ArtifactSet :=
  callback.delivery?.elim sets fun d => d.2.registerIn sets

end Callback

/-- The same leaves stand under every identity. -/
def SameLeaves (sets sets' : Table ArtifactSetId ArtifactSet) : Prop :=
  ∀ id, (sets.get? id).map ArtifactSet.leaves = (sets'.get? id).map ArtifactSet.leaves

namespace SameLeaves
variable {sets sets' : Table ArtifactSetId ArtifactSet} {set set' : ArtifactSet}

theorem insert (h : SameLeaves sets sets') (id : ArtifactSetId)
    (hleaves : set.leaves = set'.leaves) :
    SameLeaves (sets.insert id set) (sets'.insert id set') := by
  intro other
  by_cases hid : id = other
  · subst hid
    rw [Table.get?_insert_self, Table.get?_insert_self, Option.map_some, Option.map_some, hleaves]
  · rw [Table.get?_insert_of_ne _ _ hid, Table.get?_insert_of_ne _ _ hid, h other]

theorem registerSet (h : SameLeaves sets sets') (hset : set.Regrouped set') :
    SameLeaves (set.registerIn sets) (set'.registerIn sets') := by
  rw [ArtifactSet.registerIn, ArtifactSet.registerIn, hset.id_eq]
  cases set'.id? with
  | none => exact h
  | some id => exact h.insert id hset.leaves_eq

theorem register (h : SameLeaves sets sets') {callback callback' : Callback}
    (hcallback : callback.Regrouped callback') :
    SameLeaves (callback.registerIn sets) (callback'.registerIn sets') := by
  cases hcallback with
  | start => exact h
  | visitNode source target hset => exact h.registerSet hset
  | visitFile source dependency hset => exact h.registerSet hset
  | finish => exact h

theorem select_eq (h : SameLeaves sets sets') (id : ArtifactSetId) (s : VariantStore)
    (filter : ComponentFilter) (selector : VariantSelector) :
    ((sets.get? id).getD ∅).select s filter selector =
      ((sets'.get? id).getD ∅).select s filter selector := by
  have hid := h id
  cases hset : sets.get? id with
  | none =>
    rw [hset, Option.map_none, eq_comm, Option.map_eq_none_iff] at hid
    rw [hid]
  | some set =>
    rw [hset, Option.map_some, eq_comm] at hid
    obtain ⟨set', hset', hleaves⟩ := Option.map_eq_some_iff.1 hid
    rw [hset']
    exact ArtifactSet.select_eq_of_leaves_eq hleaves.symm s filter selector

end SameLeaves

namespace ArtifactCollector
variable {c c' d : ArtifactCollector} {callback callback' : Callback}
  {sets : Table ArtifactSetId ArtifactSet} {set set' : ArtifactSet}

def withSets (c : ArtifactCollector) (sets : Table ArtifactSetId ArtifactSet) : ArtifactCollector :=
  { c with sets }

theorem start_withSets (graph : Graph) (root : NodeId) :
    (c.withSets sets).start graph root = (c.start graph root).map (·.withSets sets) := by
  rw [start, start, apply_ite (Except.map _), apply_ite (Except.map _)]
  rfl

theorem record_withSets (node : NodeId) (hid : set.id? = set'.id?) :
    (c.withSets sets).record node set' =
      (c.record node set).map (·.withSets (set'.registerIn sets)) := by
  have hgroup : (c.withSets sets).group node = c.group node := rfl
  rw [record, record, hgroup, hid, ArtifactSet.registerIn]
  cases c.group node with
  | error e => rfl
  | ok ids => cases set'.id? <;> rfl

theorem markNode_withSets (source target : Node) (id : ArtifactSetId) :
    (c.withSets sets).markNode source target id = (c.markNode source target id).withSets sets := by
  rw [markNode, markNode, withSets]
  split <;> rfl

/-- A callback finds the same whatever sets are registered, and registers its own. -/
theorem accept_withSets (h : callback.Regrouped callback') :
    (c.withSets sets).accept callback' =
      (c.accept callback).map (·.withSets (callback'.registerIn sets)) := by
  cases h with
  | start graph root => exact start_withSets graph root
  | @visitNode source target set set' h =>
    rw [accept, accept, record_withSets target.id h.id_eq, h.id_eq]
    cases c.record target.id set with
    | error e => rfl
    | ok c' =>
      cases set'.id? with
      | none => rfl
      | some id => exact congrArg Except.ok (markNode_withSets source target id)
  | @visitFile source dependency set set' h =>
    rw [accept, accept, record_withSets source.id h.id_eq, h.id_eq]
    cases c.record source.id set with
    | error e => rfl
    | ok c' => cases set'.id? <;> rfl
  | finish => rfl

theorem sets_of_accept (h : c.accept callback = .ok c') :
    c'.sets = callback.registerIn c.sets := by
  have haccept : c.accept callback =
      (c.accept callback).map (·.withSets (callback.registerIn c.sets)) :=
    accept_withSets (.refl callback)
  rw [h] at haccept
  exact congrArg sets (Except.ok.inj haccept)

theorem select_artifactSet_complete (c : ArtifactCollector) (id : ArtifactSetId)
    (s s' : VariantStore) (filter : ComponentFilter) (selector : VariantSelector) :
    ((c.complete s).artifactSet id).select s' filter selector =
      ((c.sets.get? id).getD ∅).select s filter selector := by
  rw [ArtifactResults.artifactSet, get?_sets_complete]
  cases c.sets.get? id with
  | none => rfl
  | some set => exact ArtifactSet.select_snapshot s s' filter selector set

/-- Two states that differ only in the registered sets, and there only in the composites. -/
inductive Regrouped (c : ArtifactCollector) : ArtifactCollector → Prop
  | withSets (sets : Table ArtifactSetId ArtifactSet) (h : SameLeaves c.sets sets) :
    Regrouped c (c.withSets sets)

namespace Regrouped

theorem receive (h : c.Regrouped d) (hcallback : callback.Regrouped callback') :
    (Visitor.receive c callback).1.Regrouped (Visitor.receive d callback').1 ∧
      (Visitor.receive c callback).2 = (Visitor.receive d callback').2 := by
  obtain ⟨sets, hsets⟩ := h
  have haccept : (c.withSets sets).accept callback' =
      (c.accept callback).map (·.withSets (callback'.registerIn sets)) :=
    accept_withSets hcallback
  cases hc : c.accept callback with
  | error e =>
    rw [hc] at haccept
    rw [receive_of_refuse hc, receive_of_refuse haccept]
    exact ⟨.withSets sets hsets, rfl⟩
  | ok c' =>
    rw [hc] at haccept
    rw [receive_of_accept hc, receive_of_accept haccept]
    refine ⟨.withSets _ ?_, rfl⟩
    rw [sets_of_accept hc]
    exact hsets.register hcallback

theorem run (h : c.Regrouped d) {cs ds : List Callback}
    (hcs : List.Forall₂ Callback.Regrouped cs ds) :
    (Visitor.run c cs).1.Regrouped (Visitor.run d ds).1 ∧
      (Visitor.run c cs).2 = (Visitor.run d ds).2 := by
  induction hcs generalizing c d with
  | nil => exact ⟨h, rfl⟩
  | cons hcallback _ ih =>
    obtain ⟨hreceive, hanswer⟩ := h.receive hcallback
    obtain ⟨hrest, hanswers⟩ := ih hreceive
    rw [Visitor.run_cons, Visitor.run_cons, hanswer, hanswers]
    exact ⟨hrest, rfl⟩

theorem select_complete (h : c.Regrouped d) (s s' : VariantStore) (filter : ComponentFilter)
    (selector : VariantSelector) :
    (c.complete s).select s' filter selector = (d.complete s).select s' filter selector := by
  obtain ⟨sets, hsets⟩ := h
  have hgroups : (c.complete s).groups = ((c.withSets sets).complete s).groups := rfl
  have hbuildable : (c.complete s).buildable = ((c.withSets sets).complete s).buildable := rfl
  apply ArtifactResults.select_congr hgroups hbuildable
  intro id
  rw [select_artifactSet_complete, select_artifactSet_complete]
  exact hsets.select_eq id s filter selector

end Regrouped

/-- What is selected from a set is what is selected from the components and the files in it, depth
first and from left to right, as often as they stand there; empty sets have no part in it. So the
sets with the same leaves, whatever composites group them and under whatever identities, select the
same as long as they are live, once they are frozen, and live or frozen against each other. Two runs
that deliver such sets in each other's place, under the same outer identity, answer alike, and of
their results the same is selected of every node, altogether and to be built. -/
theorem leaves_determine_selection (filter : ComponentFilter) (selector : VariantSelector) :
    (∀ s (set : ArtifactSet),
      (∀ leaf ∈ set.leaves, leaf.isLeaf) ∧
      (set.select s filter selector).toList =
        set.leaves.flatMap fun leaf => (leaf.select s filter selector).toList) ∧
    (∀ set set' : ArtifactSet, set.leaves = set'.leaves → ∀ s s',
      set.select s filter selector = set'.select s filter selector ∧
      (set.snapshot s).select s' filter selector = (set'.snapshot s).select s' filter selector ∧
      (set.snapshot s).select s' filter selector = set'.select s filter selector) ∧
    (∀ buildProjects order cs cs', List.Forall₂ Callback.Regrouped cs cs' → ∀ s s',
      let fresh : ArtifactCollector := { buildProjects, order }
      let selection cs := ((Visitor.run fresh cs).1.complete s).select s' filter selector
      (Visitor.run fresh cs).2 = (Visitor.run fresh cs').2 ∧
      (selection cs).nodes = (selection cs').nodes ∧
      (∀ node, (selection cs).artifactsFor node = (selection cs').artifactsFor node) ∧
      (selection cs).artifacts = (selection cs').artifacts ∧
      (selection cs).buildDependencies = (selection cs').buildDependencies) := by
  refine ⟨?_, ?_, ?_⟩
  · intro s set
    refine ⟨fun leaf hleaf => ArtifactSet.isLeaf_of_mem_leaves hleaf, ?_⟩
    exact ArtifactSet.toList_select_eq_leaves s filter selector set
  · intro set set' hleaves s s'
    have hlive : set.select s filter selector = set'.select s filter selector :=
      ArtifactSet.select_eq_of_leaves_eq hleaves s filter selector
    rw [ArtifactSet.select_snapshot, ArtifactSet.select_snapshot]
    exact ⟨hlive, hlive, hlive⟩
  · intro buildProjects order cs cs' hcs s s' fresh selection
    have hfresh : fresh.Regrouped fresh := .withSets fresh.sets fun _ => rfl
    obtain ⟨hlast, hanswers⟩ := hfresh.run hcs
    have hselection : selection cs = selection cs' :=
      hlast.select_complete s s' filter selector
    rw [hselection]
    exact ⟨hanswers, rfl, fun _ => rfl, rfl, rfl⟩

theorem leaves_determine_selection_jars :
    let a : ArtifactSet := .files ⟨2⟩ ⟨0⟩ none [⟨"a.jar"⟩]
    let b : ArtifactSet := .files ⟨3⟩ ⟨0⟩ none [⟨"b.jar"⟩]
    let set : ArtifactSet := .composite ⟨0⟩ [.composite ⟨1⟩ [a, ∅], b]
    let set' : ArtifactSet := .composite ⟨0⟩ [a, .composite ⟨4⟩ [b, .composite ⟨5⟩ []]]
    let node : Node := ⟨⟨1⟩, .module "org" "a" "1", ⟨"main", .external⟩, #[]⟩
    let visits (set : ArtifactSet) : List Callback :=
      [.visitFile node ⟨⟨0⟩, "jars", none, []⟩ set, .finish]
    let built (set : ArtifactSet) :=
      (((Visitor.run { buildProjects := true, order := .default : ArtifactCollector }
        (visits set)).1.complete ∅).select ∅ .acceptAll .first).buildDependencies
    set.leaves = set'.leaves ∧ List.Forall₂ Callback.Regrouped (visits set) (visits set') ∧
    set.select ∅ .acceptAll .first = set'.select ∅ .acceptAll .first ∧
    built set = built set' ∧ (built set).files = [⟨"a.jar"⟩, ⟨"b.jar"⟩] := by
  intro a b set set' node visits built
  have hset : set.Regrouped set' := ⟨rfl, rfl⟩
  have hvisits : List.Forall₂ Callback.Regrouped (visits set) (visits set') :=
    .cons (.visitFile _ _ hset) (.cons .finish .nil)
  obtain ⟨_, hsets, hruns⟩ := leaves_determine_selection .acceptAll .first
  obtain ⟨_, _, _, _, hbuilt⟩ := hruns true .default _ _ hvisits ∅ ∅
  exact ⟨rfl, hvisits, (hsets set set' rfl ∅ ∅).1, hbuilt, by decide +kernel⟩

end ArtifactCollector

end ArtifactResolution
